import ClusterRouter.Text.Shapeless

/-!
# Quoted texts

Texts between double quotes, as messages list them. What would not show is escaped.
-/

namespace ClusterRouter.Text

def escapeChar (c : Char) : List Char :=
  match c with
  | '\x00' => ['\\', '0']
  | '\t' => ['\\', 't']
  | '\n' => ['\\', 'n']
  | '\r' => ['\\', 'r']
  | '"' => ['\\', '"']
  | '\\' => ['\\', '\\']
  | _ =>
    if c.toNat < 0x20 || isShapeless c then
      ['\\', 'u', '\x7b'] ++ Nat.toDigits 16 c.toNat ++ ['\x7d']
    else [c]

def quoted (s : String) : String := String.ofList ('"' :: s.toList.flatMap escapeChar ++ ['"'])

/-- A name of a file between double quotes; in names the single quote is escaped as well. -/
def quotedName (s : String) : String :=
  String.ofList ('"' :: s.toList.flatMap (fun c => if c == '\x27' then ['\\', c] else escapeChar c)
    ++ ['"'])

/-- A list of quoted texts in brackets. -/
def quotedList (texts : List String) : String := "[" ++ ", ".intercalate (texts.map quoted) ++ "]"

end ClusterRouter.Text
