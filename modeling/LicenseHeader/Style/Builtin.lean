import LicenseHeader.Keyed
import LicenseHeader.Style.Basic

/-!
# Built-in styles

The definitions of the styles that are there without a style document.
-/

namespace LicenseHeader

def builtinModels : Keyed StyleModel := [
  ("asciidoc_style".toList, {
    opening := "////".toList
    closing := "////$\x7beol\x7d".toList
    before := "  // ".toList
    first := some "^////$".toList
    last := some "^////$".toList }),
  ("mvel_style".toList, {
    opening := "@comment\x7b".toList
    closing := "\x7d".toList
    before := "  ".toList
    allowsBlank := true
    first := some "@comment\\\x7b$".toList
    last := some "\\\x7d$".toList }),
  ("javadoc_style".toList, {
    opening := "/**".toList
    closing := " */".toList
    before := " * ".toList
    first := some "(\\s|\\t)*/\\*.*$".toList
    last := some ".*\\*/(\\s|\\t)*$".toList }),
  ("scala_style".toList, {
    opening := "/**".toList
    closing := "  */".toList
    before := "  * ".toList
    first := some "(\\s|\\t)*/\\*.*$".toList
    last := some ".*\\*/(\\s|\\t)*$".toList }),
  ("javapkg_style".toList, {
    opening := "$\x7beol\x7d/*-".toList
    closing := " */".toList
    before := " * ".toList
    skip := some "^package [a-z_]+(\\.[a-z_][a-z0-9_]*)*;$".toList
    first := some "(\\s|\\t)*/\\*.*$".toList
    last := some ".*\\*/(\\s|\\t)*$".toList }),
  ("script_style".toList, {
    closing := "$\x7beol\x7d".toList
    before := "# ".toList
    isBlock := false
    skip := some "^#!.*$".toList
    first := some "#.*$".toList
    last := some "#.*$".toList }),
  ("haml_style".toList, {
    opening := "-#".toList
    closing := "-#$\x7beol\x7d".toList
    before := "-# ".toList
    isBlock := false
    skip := some "^-#!.*$".toList
    first := some "-#.*$".toList
    last := some "-#.*$".toList }),
  ("xml_style".toList, {
    opening := "<!--$\x7beol\x7d".toList
    closing := "$\x7beol\x7d-->".toList
    before := "    ".toList
    allowsBlank := true
    skip := some "^<\\?xml.*>$".toList
    first := some "(\\s|\\t)*<!--.*$".toList
    last := some ".*-->(\\s|\\t)*$".toList }),
  ("xml_per_line".toList, {
    opening := "$\x7beol\x7d".toList
    closing := "$\x7beol\x7d".toList
    before := "<!-- ".toList
    after := " -->".toList
    isBlock := false
    pads := true
    skip := some "^<\\?xml.*>$".toList
    first := some "(\\s|\\t)*<!--.*$".toList
    last := some ".*-->(\\s|\\t)*$".toList }),
  ("semicolon_style".toList, {
    opening := ";".toList
    closing := ";$\x7beol\x7d".toList
    before := "; ".toList
    isBlock := false
    first := some ";.*$".toList
    last := some ";.*$".toList }),
  ("apostrophe_style".toList, {
    opening := "'".toList
    closing := "'$\x7beol\x7d".toList
    before := "' ".toList
    isBlock := false
    first := some "'.*$".toList
    last := some "'.*$".toList }),
  ("exclamation_style".toList, {
    opening := "!".toList
    closing := "!$\x7beol\x7d".toList
    before := "! ".toList
    isBlock := false
    first := some "!.*$".toList
    last := some "!.*$".toList }),
  ("doubledashes_style".toList, {
    opening := "--".toList
    closing := "--$\x7beol\x7d".toList
    before := "-- ".toList
    isBlock := false
    first := some "--.*$".toList
    last := some "--.*$".toList }),
  ("slashstar_style".toList, {
    opening := "/*".toList
    closing := " */$\x7beol\x7d".toList
    before := " * ".toList
    first := some "(\\s|\\t)*/\\*.*$".toList
    last := some ".*\\*/(\\s|\\t)*$".toList }),
  ("bracesstar_style".toList, {
    opening := "\x7b*".toList
    closing := " *\x7d".toList
    before := " * ".toList
    first := some "(\\s|\\t)*\\\x7b\\*.*$".toList
    last := some ".*\\*\\\x7d(\\s|\\t)*$".toList }),
  ("sharpstar_style".toList, {
    opening := "#*".toList
    closing := " *#".toList
    before := " * ".toList
    first := some "(\\s|\\t)*#\\*.*$".toList
    last := some ".*\\*#(\\s|\\t)*$".toList }),
  ("doubletilde_style".toList, {
    opening := "~~".toList
    closing := "~~$\x7beol\x7d".toList
    before := "~~ ".toList
    isBlock := false
    first := some "~~.*$".toList
    last := some "~~.*$".toList }),
  ("dynascript_style".toList, {
    opening := "<%--$\x7beol\x7d".toList
    closing := "$\x7beol\x7d--%>".toList
    before := "    ".toList
    allowsBlank := true
    first := some "(\\s|\\t)*<%--.*$".toList
    last := some ".*--%>(\\s|\\t)*$".toList }),
  ("dynascript3_style".toList, {
    opening := "<!---$\x7beol\x7d".toList
    closing := "$\x7beol\x7d--->".toList
    before := "    ".toList
    allowsBlank := true
    first := some "(\\s|\\t)*<!---.*$".toList
    last := some ".*--->(\\s|\\t)*$".toList }),
  ("percent_style".toList, {
    closing := "$\x7beol\x7d".toList
    before := "% ".toList
    isBlock := false
    first := some "^% .*$".toList
    last := some "^% .*$".toList }),
  ("percent3_style".toList, {
    opening := "%%%".toList
    closing := "%%%$\x7beol\x7d".toList
    before := "%%% ".toList
    isBlock := false
    first := some "%%%.*$".toList
    last := some "%%%.*$".toList }),
  ("exclamation3_style".toList, {
    opening := "!!!".toList
    closing := "!!!$\x7beol\x7d".toList
    before := "!!! ".toList
    isBlock := false
    first := some "!!!.*$".toList
    last := some "!!!.*$".toList }),
  ("doubleslash_style".toList, {
    closing := "$\x7beol\x7d".toList
    before := "// ".toList
    isBlock := false
    first := some "//.*$".toList
    last := some "//.*$".toList }),
  ("single_line_doubleslash_style".toList, {
    before := "// ".toList
    isBlock := false
    first := some "//.*$".toList
    last := some "//.*$".toList }),
  ("tripleslash_style".toList, {
    opening := "///".toList
    closing := "///$\x7beol\x7d".toList
    before := "/// ".toList
    isBlock := false
    first := some "///.*$".toList
    last := some "///.*$".toList }),
  ("php".toList, {
    opening := "/*".toList
    closing := " */".toList
    before := " * ".toList
    skip := some "^<\\?php.*$".toList
    first := some "(\\s|\\t)*/\\*.*$".toList
    last := some ".*\\*/(\\s|\\t)*$".toList }),
  ("asp".toList, {
    opening := "<%".toList
    closing := "%>".toList
    before := "' ".toList
    allowsBlank := true
    first := some "(\\s|\\t)*<%( .*)?$".toList
    last := some ".*%>(\\s|\\t)*$".toList }),
  ("lua".toList, {
    opening := "--[[$\x7beol\x7d".toList
    closing := "$\x7beol\x7d]]".toList
    before := "    ".toList
    allowsBlank := true
    first := some "--\\[\\[$".toList
    last := some "\\]\\]$".toList }),
  ("ftl".toList, {
    opening := "<#--$\x7beol\x7d".toList
    closing := "$\x7beol\x7d-->".toList
    before := "    ".toList
    allowsBlank := true
    first := some "(\\s|\\t)*<#--.*$".toList
    last := some ".*-->(\\s|\\t)*$".toList }),
  ("ftl_alt".toList, {
    opening := "[#--$\x7beol\x7d".toList
    closing := "$\x7beol\x7d--]".toList
    before := "    ".toList
    allowsBlank := true
    skip := some "\\[#ftl(\\s.*)?\\]".toList
    first := some "(\\s|\\t)*\\[#--.*$".toList
    last := some ".*--\\](\\s|\\t)*$".toList }),
  ("text".toList, {
    opening := "====".toList
    closing := "====$\x7beol\x7d".toList
    before := "    ".toList
    allowsBlank := true
    first := some "====.*$".toList
    last := some "====.*$".toList }),
  ("batch".toList, {
    opening := "@REM".toList
    closing := "@REM$\x7beol\x7d".toList
    before := "@REM ".toList
    isBlock := false
    first := some "@REM.*$".toList
    last := some "@REM.*$".toList }),
  ("mustache_style".toList, {
    opening := "\x7b\x7b!".toList
    closing := "\x7d\x7d".toList
    before := "    ".toList
    first := some "\\\x7b\\\x7b!.*$".toList
    last := some "\\\x7d\\\x7d.*$".toList })]

end LicenseHeader
