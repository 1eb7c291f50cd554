/-! # The templates of the sample site

Short templates that use every part of the template language once: outputs, branches, loops, nested
templates, inclusion and the functions of the host.
-/

namespace Templating.Site

/-- A tag in a source. -/
def tag (content : String) : String :=
  "\x7b% " ++ content ++ " %\x7d"

/-- An output in a source. -/
def output (content : String) : String :=
  "\x7b\x7b " ++ content ++ " \x7d\x7d"

/-- The templates with their sources. -/
def templates : List (String × String) := [
  ("cards",
    tag "template card" ++ "[" ++ output "title" ++ "]" ++ tag "endtemplate"
      ++ tag "for title in titles" ++ tag "include \"card\"" ++ tag "endfor"),
  ("digits", tag "for x in xs" ++ output "x" ++ tag "else" ++ "none" ++ tag "endfor"),
  ("error", "Error: " ++ output "error"),
  ("escape", output "html" ++ "|" ++ output "raw(html)"),
  ("failing", "before " ++ output "1 / 0" ++ " after"),
  ("grid",
    tag "for row in rows" ++ tag "for cell in row" ++ output "loop.index" ++ output "cell" ++ tag "endfor"
      ++ "|" ++ output "row[0]" ++ output "loop.index" ++ ";" ++ tag "endfor"),
  ("host", output "slugify(title)" ++ "|" ++ output "greeting(name)" ++ "|" ++ output "shout(name)"),
  ("kind",
    tag "switch kind" ++ "\n  " ++ tag "case \"a\"" ++ "alpha" ++ tag "case \"b\"" ++ "beta"
      ++ tag "default" ++ "other" ++ tag "endswitch"),
  ("math", output "2 + 3 * 4"),
  ("membership",
    tag "if x in 1..3" ++ "in" ++ tag "endif" ++ tag "if x not in 1..3" ++ "out" ++ tag "endif"),
  ("order",
    tag "set total = price * qty" ++ output "total" ++ " " ++ output "total > 100 ? \"large\" : \"small\""),
  ("page", "<h1>" ++ tag "include \"partials/header\"" ++ "</h1>"),
  ("paren_items", tag "for (item in items)" ++ output "item" ++ tag "endfor"),
  ("paren_size", tag "if (x > 1)" ++ "big" ++ tag "else" ++ "small" ++ tag "endif"),
  ("partials/header", output "site_name" ++ ": " ++ output "title"),
  ("prices",
    tag "for k, v in prices" ++ output "k" ++ "=" ++ output "v" ++ tag "if not loop.last" ++ ", "
      ++ tag "endif" ++ tag "endfor"),
  ("range", tag "for i in 1..3" ++ output "i" ++ tag "endfor"),
  ("shadow",
    tag "set b = 1" ++ tag "for a in xs" ++ tag "for b in ys" ++ tag "set c = b" ++ tag "endfor"
      ++ "[" ++ output "b" ++ output "c" ++ "]" ++ tag "endfor"),
  ("size", tag "if x > 1" ++ "big" ++ tag "else" ++ "small" ++ tag "endif"),
  ("strings",
    output "s.replace(\"a\", \"o\")" ++ "|" ++ output "length(s.split(\",\"))" ++ "|" ++ output "upper(s)"),
  ("tests",
    tag "if n is even" ++ "even" ++ tag "endif" ++ tag "if n is not divisible by 3" ++ " nd3" ++ tag "endif"
      ++ tag "if missing is not set" ++ " unset" ++ tag "endif" ++ tag "if n in [2, 4]" ++ " listed"
      ++ tag "endif"),
  ("trim",
    "Hello,\n  \x7b%- if name -%\x7d\n  " ++ output "name" ++ "\n  \x7b%- endif %\x7d!")]

end Templating.Site
