import MetricBundle.Text.Hidden

/-!
# Quoted text

Names and label values are shown between double quotes in descriptions and in some messages. Quotes,
backslashes and the control characters with a letter of their own are written with a backslash;
any other character that would not show is written by its code point in braces.
-/

namespace MetricBundle

/-- A code point in lowercase hexadecimal digits. -/
def hexDigits (n : Nat) : List Char := Nat.toDigits 16 n

/-- How a character is written inside quotes. -/
def quoteChar (c : Char) : List Char :=
  match c.toNat with
  | 0x00 => "\\0".toList
  | 0x09 => "\\t".toList
  | 0x0A => "\\n".toList
  | 0x0D => "\\r".toList
  | 0x22 => "\\\"".toList
  | 0x5C => "\\\\".toList
  | n =>
    if (0x20 ≤ n && n < 0x7F) || (0x80 ≤ n && !isHidden c) then [c]
    else "\\u\x7b".toList ++ hexDigits n ++ "\x7d".toList

/-- A text between quotes. -/
def quote (s : String) : String :=
  String.ofList ("\"".toList ++ s.toList.flatMap quoteChar ++ "\"".toList)

/-- A list of texts, each between quotes. -/
def quoteList (texts : List String) : String := "[" ++ ", ".intercalate (texts.map quote) ++ "]"

end MetricBundle
