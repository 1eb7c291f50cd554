import Templating.Diagnostic.Code

/-! # The manual of diagnostics

Longer explanations of the more common codes.
-/

namespace Templating.DiagnosticCode

/-- The codes with an explanation, in the order of the manual. -/
def manual : List (DiagnosticCode × String) := [
  (unterminatedString,
    "A string literal was opened with `\"` or `'` but the tag or " ++
    "expression ended before the matching quote.\n\n    \x7b\x7b \"hello \x7d\x7d\n"),
  (invalidCharacter,
    "A character that starts no token appeared inside `\x7b% %\x7d` or `\x7b\x7b \x7d\x7d`.\n\n    " ++
    "\x7b\x7b price $ 2 \x7d\x7d\n"),
  (unterminatedDelimiter,
    "A tag, expression or comment was opened but never closed. The error " ++
    "points at the line of the opener.\n\n    \x7b% if x\n"),
  (unexpectedToken,
    "The parser found a token the current construct does not accept. The " ++
    "message lists every alternative that would have been valid.\n"),
  (expectedExpression,
    "An operand was expected, for example after a binary operator.\n\n    " ++
    "\x7b\x7b 1 + \x7d\x7d\n"),
  (unterminatedConstruct,
    "A block tag was still open when the template ended. Close it with its " ++
    "ending tag.\n\n    \x7b% if x %\x7dyes\n\nneeds `\x7b% endif %\x7d`.\n"),
  (unexpectedClosing,
    "A closing construct does not match the innermost open one, such as a " ++
    "`)` closing a `[`, or `\x7b% endfor %\x7d` inside an `if`.\n"),
  (unknownTag,
    "The word after `\x7b%` is not a registered tag and no fallback tag is " ++
    "configured.\n"),
  (continuationOutside,
    "Continuation keywords (`else`, `elseif`, `case`, `default`) are only " ++
    "valid directly inside the block that owns them.\n"),
  (chainedOperator,
    "Non-associative operators cannot be chained without parentheses.\n"),
  (switchBranch,
    "Everything inside `\x7b% switch %\x7d` must belong to a `case` or `default` " ++
    "branch. Only whitespace may precede the first branch.\n"),
  (missingOperand,
    "An operator node reached code generation without an operand its " ++
    "arity requires. This points at a tag or extension that built the " ++
    "node by hand.\n"),
  (identifierCollision,
    "Two template names, or two nested `\x7b% template %\x7d` names, differ " ++
    "only in case or punctuation and so map to the same Rust module or " ++
    "struct name. Rename one of them.\n"),
  (duplicateAlias,
    "Two operators registered the same alias in the same table (unary or " ++
    "binary). Aliases must be unique per table.\n"),
  (templateNotFound,
    "The loader has no template with this name.\n"),
  (invalidConfiguration,
    "The configuration could not be read or is invalid: a JSON syntax " ++
    "error, an unknown field, clashing delimiters or a `cache_namespace` " ++
    "that is not a Rust identifier.\n")]

/-- The explanation of a code. -/
def explanation? (code : DiagnosticCode) : Option String :=
  manual.lookup code

end Templating.DiagnosticCode
