import LicenseHeader.Text.Basic

/-!
# Built-in selection patterns

The patterns of files that are selected when none are given, and of those that never carry a
licence header.
-/

namespace LicenseHeader

/-- The include patterns that hold when none are given. -/
def builtinIncludes : List Text := ["**".toList]

/-- The patterns of files that never carry a licence header. -/
def builtinExcludes : List Text :=
  ([
    -- editor backups and temporary files
    "**/*~", "**/#*#", "**/.#*", "**/%*%", "**/._*", "**/.repository/**", "**/*.lck",
    -- version control
    "**/CVS", "**/CVS/**", "**/.cvsignore", "**/RCS", "**/RCS/**", "**/SCCS", "**/SCCS/**",
    "**/vssver.scc", "**/.svn", "**/.svn/**", "**/.arch-ids", "**/.arch-ids/**", "**/.bzr",
    "**/.bzr/**", "**/.MySCMServerInfo", "**/.DS_Store", ".dockerignore", "**/.metadata",
    "**/.metadata/**", "**/.hg", "**/.hg/**", "**/.hgignore", "**/.git", "**/.git/**",
    "**/.gitattributes", "**/.gitignore", "**/.gitkeep", "**/.gitmodules", "**/BitKeeper",
    "**/BitKeeper/**", "**/ChangeSet", "**/ChangeSet/**", "**/_darcs", "**/_darcs/**",
    "**/.darcsrepo", "**/.darcsrepo/**", "**/-darcs-backup*", "**/.darcs-temp-mail",
    -- build outputs and lock files
    "**/target/**", "**/test-output/**", "**/release.properties", "**/dependency-reduced-pom.xml",
    "**/release-pom.xml", "**/pom.xml.releaseBackup", "**/pom.xml.versionsBackup", "**/node/**",
    "**/node_modules/**", "**/.yarn/**", "**/yarn.lock", "pnpm-lock.yaml", "**/go.sum",
    "**/Cargo.lock",
    -- coverage data and IDE projects
    "**/cobertura.ser", "**/.clover/**", "**/jacoco.exec", "**/.classpath", "**/.project",
    "**/.settings/**", "**/*.iml", "**/*.ipr", "**/*.iws", "**/.idea/**",
    "**/nb-configuration.xml", "**/.factorypath",
    -- descriptors and license files
    "**/MANIFEST.MF", "**/LICENSE", "**/LICENSE_HEADER",
    -- binary files
    "**/*.jpg", "**/*.png", "**/*.gif", "**/*.ico", "**/*.bmp", "**/*.tiff", "**/*.tif",
    "**/*.cr2", "**/*.xcf", "**/*.class", "**/*.exe", "**/*.dll", "**/*.so", "**/*.md5",
    "**/*.sha1", "**/*.sha256", "**/*.sha512", "**/*.asc", "**/*.jks", "**/*.keytab", "**/*.lic",
    "**/*.p12", "**/*.pub", "**/*.jar", "**/*.zip", "**/*.rar", "**/*.tar", "**/*.tar.gz",
    "**/*.tar.bz2", "**/*.gz", "**/*.7z",
    -- documents
    "**/META-INF/services/**", "**/*.md", "**/*.xls", "**/*.doc", "**/*.odt", "**/*.ods",
    "**/*.pdf",
    -- CI and wrapper scripts
    "**/.travis.yml", "**/.appveyor.yml", "**/appveyor.yml", "**/.circleci", "**/.circleci/**",
    "**/.build.yml", "**/jvm.config", "**/maven.config", "**/gradlew", "**/gradlew.bat",
    "**/gradle-wrapper.properties", "**/mvnw", "**/mvnw.cmd", "**/maven-wrapper.properties",
    "**/MavenWrapperDownloader.java",
    -- generated data
    "**/*.swf", "**/*.json", "**/*.svg", "**/*.eot", "**/*.otf", "**/*.ttf", "**/*.woff",
    "**/*.woff2", "**/*.log", "**/*.xlsx", "**/*.docx", "**/*.ppt", "**/*.pptx"
  ] : List String).map String.toList

end LicenseHeader
