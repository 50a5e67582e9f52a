import LicenseHeader.Mapping.Basic

/-!
# Built-in mapping

The file names and extensions whose styles are known without a configuration.
-/

namespace LicenseHeader

/-- The built-in styles with their extensions and file names. -/
def builtinMapping : List MappingEntry :=
  ([
    ("asciidoc_style", ["adoc"], []),
    ("asp", ["asp"], []),
    ("batch", ["bat", "cmd"], []),
    ("bracesstar_style", ["pas"], []),
    ("doubledashes_style", ["adb", "ads", "e", "sql"], []),
    ("doubleslash_style", ["rs"], []),
    ("doubletilde_style", ["apt"], []),
    ("dynascript_style", ["jsp"], []),
    ("dynascript3_style", ["cfc", "cfm"], []),
    ("exclamation_style", ["f"], []),
    ("exclamation3_style", ["el"], []),
    ("ftl", ["ftl"], []),
    ("haml_style", ["bas", "haml", "scaml"], []),
    ("javadoc_style", ["aj", "as", "c", "cc", "cpp", "cs", "css", "h", "scss"], []),
    ("lua", ["lua"], []),
    ("mustache_style", ["mustache"], []),
    ("mvel_style", ["mv"], []),
    ("percent_style", ["cls", "sty", "tex"], []),
    ("percent3_style", ["erl", "hrl"], []),
    ("php", ["php"], []),
    ("script_style",
      ["pl", "pm", "properties", "py", "rb", "sh", "toml", "yaml", "yml"],
      ["dockerfile", ".editorconfig", "spring.factories"]),
    ("semicolon_style", ["asm", "clj", "cljs"], []),
    ("sharpstar_style", ["vm"], []),
    ("slashstar_style", ["fx", "go", "groovy", "java", "js", "kt", "scala", "ts"], []),
    ("text", ["txt"], []),
    ("apostrophe_style", ["vba"], []),
    ("xml_style",
      ["dtd", "fml", "gsp", "htm", "html", "jspx", "kml", "mxml", "pom", "tagx", "tld", "wsdl",
        "xhtml", "xml", "xsd", "xsl", "xslt"],
      [])
  ] : List (String × List String × List String)).flatMap fun (style, extensions, fileNames) =>
    MappingEntry.ofGroup style.toList ⟨extensions.map String.toList, fileNames.map String.toList⟩

end LicenseHeader
