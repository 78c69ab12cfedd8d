import Lexicon.Text.Hidden

/-! Texts in quotation marks, with escapes for what would not show or would end the quotation. -/

set_option autoImplicit false

namespace Lexicon.Text

def escapeByCode (c : Char) : String :=
  "\\u\x7b" ++ String.ofList (Nat.toDigits 16 c.toNat) ++ "\x7d"

def quoteChar (c : Char) : String :=
  match c with
  | '\x00' => "\\0"
  | '\t' => "\\t"
  | '\r' => "\\r"
  | '\n' => "\\n"
  | '"' => "\\\""
  | '\\' => "\\\\"
  | _ => if isHidden c then escapeByCode c else c.toString

def quote (text : String) : String :=
  text.toList.foldl (fun out c => out ++ quoteChar c) "\"" ++ "\""

def quoteList (texts : List String) : String :=
  "[" ++ ", ".intercalate (texts.map quote) ++ "]"

end Lexicon.Text
