import Ripple.Pattern.CharSet
import Ripple.Unicode.Script

/-!
# Character properties by name

The sets that `\p` names. Names are compared loosely: case, blanks, hyphens, low lines and a
leading `is` do not count.
-/

namespace Ripple.CharSet

/-- A property name without what does not count. `isc` keeps its beginning, which would leave
the name of a general category. -/
def looseName (name : String) : String :=
  let counts (c : Char) : Bool := c.toNat < 128 && !(c == ' ' || c == '-' || c == '_')
  match (name.toList.filter counts).map Char.toLower with
  | ['i', 's', 'c'] => "isc"
  | 'i' :: 's' :: rest => String.ofList rest
  | kept => String.ofList kept

/-- Whether a loosened name is one of `names`. -/
def named (loose : String) (names : List String) : Bool :=
  names.any fun name => (name.toList.filter (· != '_')).map Char.toLower == loose.toList

/-- A general category, a group of them, or one of `any`, `assigned` and `ascii`. -/
def category? (loose : String) : Option CharSet :=
  if loose == "any" then some (.compl .empty)
  else if loose == "ascii" then some (.ranges [(0, 127)])
  else if loose == "assigned" then some (.compl (.ranges (Unicode.category "Cn")))
  else
    match Unicode.categoryGroup.find? fun (short, long, _) => named loose (short :: long) with
    | some (_, _, members) => some (.ranges (members.flatMap Unicode.category))
    | none =>
      (Unicode.generalCategory.find? fun (short, long, _) => named loose (short :: long)).map
        fun (_, _, table) => .ranges table

/-- A script. -/
def script? (loose : String) : Option CharSet :=
  (Unicode.scripts.find? fun (names, _) => named loose names).map fun (_, table) => .ranges table

/-- A property that a character has or has not. -/
def binary? (loose : String) : Option CharSet :=
  if named loose ["Alphabetic", "Alpha"] then some (.ranges Unicode.alphabetic)
  else if named loose ["Lowercase", "Lower"] then some (.ranges Unicode.lowercase)
  else if named loose ["Uppercase", "Upper"] then some (.ranges Unicode.uppercase)
  else if named loose ["White_Space", "WSpace", "space"] then some (.ranges Unicode.whiteSpace)
  else if named loose ["ASCII_Hex_Digit", "AHex"] then
    some (.ranges [(0x30, 0x39), (0x41, 0x46), (0x61, 0x66)])
  else if named loose ["Hex_Digit", "Hex"] then
    some (.ranges [(0x30, 0x39), (0x41, 0x46), (0x61, 0x66), (0xff10, 0xff19),
      (0xff21, 0xff26), (0xff41, 0xff46)])
  else if named loose ["Join_Control", "Join_C"] then some (.ranges [(0x200c, 0x200d)])
  else none

/-- The set a bare name stands for. -/
def ofName? (name : String) : Option CharSet :=
  let loose := looseName name
  binary? loose <|> category? loose <|> script? loose

/-- The set of the characters whose property has a value. -/
def ofNameAndValue? (property value : String) : Option CharSet :=
  let loose := looseName property
  if named loose ["General_Category", "gc"] then category? (looseName value)
  else if named loose ["Script", "sc", "Script_Extensions", "scx"] then
    script? (looseName value)
  else none

end Ripple.CharSet
