import TraitDocs.OrderedMap
import TraitDocs.Settings.Binding
import TraitDocs.Text.Encoded

/-!
# Settings

Settings are keys with values, or without one. In a value, `$` with a name in braces stands for the
value that the name has so far; after the name and `:-` a default may stand for names without one.
-/

set_option autoImplicit false

namespace TraitDocs

/-- Keys with their values, if they have one. -/
abbrev Settings := OrderedMap String (Option String)

namespace Settings

/-- A reference to another setting, as it stands in a value. -/
structure Reference where
  name : String
  /-- What stands for a setting that is not there. -/
  fallback : String
  /-- The number of characters of the reference. -/
  width : Nat
  deriving DecidableEq, Repr

/-- Reads the default of a reference and its closing brace; `name` and `read` are the name and the
number of characters before. -/
def readFallback (name : List Char) (read : Nat) (cs : List Char) : Option Reference :=
  let fallback := cs.takeWhile (· != '}')
  match cs.drop fallback.length with
  | '}' :: _ => some ⟨String.ofList name, String.ofList fallback, read + fallback.length + 1⟩
  | _ => none

/-- The reference at the front of a text, if there is one. -/
def referenceAt? : List Char → Option Reference
  | '$' :: '{' :: cs =>
    let name := cs.takeWhile fun c => c != '}' && c != ':'
    match cs.drop name.length with
    | '}' :: _ => some ⟨String.ofList name, "", name.length + 3⟩
    | ':' :: '-' :: rest => readFallback name (name.length + 4) rest
    | _ => none
  | _ => none

/-- What a reference stands for: the value of the setting, empty if it has none, or the default. -/
def resolve (settings : Settings) (r : Reference) : String :=
  match settings.get? r.name with
  | some value => value.getD ""
  | none => r.fallback

/-- Replaces the references in the rest of a value. The next `skip` characters belong to a reference
already replaced. -/
def expandFrom (settings : Settings) (skip : Nat) : List Char → List Char
  | [] => []
  | c :: cs =>
    match skip with
    | skip + 1 => expandFrom settings skip cs
    | 0 =>
      match referenceAt? (c :: cs) with
      | some r => (settings.resolve r).toList ++ expandFrom settings (r.width - 1) cs
      | none => c :: expandFrom settings 0 cs

/-- A value with what its references stand for. -/
def expand (settings : Settings) (value : String) : String :=
  String.ofList (expandFrom settings 0 value.toList)

/-- Adds a binding; its value may refer to the settings so far. -/
def bind (settings : Settings) (b : Binding) : Settings :=
  settings.insert b.key (b.value.map settings.expand)

/-- The settings of a text, which may start with a byte order mark. -/
def ofText (cs : List Char) : Settings :=
  let cs := if cs.head? == some '\uFEFF' then cs.drop 1 else cs
  (bindings cs).foldl bind .empty

/-- The settings of a file. -/
def ofBytes (bytes : ByteArray) : Except Fault Settings :=
  match Text.decode bytes with
  | .ok cs => .ok (ofText cs)
  | .error fault => .error fault

/-- The value of a key, unless it has none or an empty one. -/
def value? (settings : Settings) (key : String) : Option String :=
  ((settings.get? key).getD none).filter (· ≠ "")

/-- The value of a key, or a default for one without a value. -/
def valueOr (settings : Settings) (key fallback : String) : String :=
  (settings.value? key).getD fallback

end Settings

end TraitDocs
