import EntityTagger.Number.Integer
import EntityTagger.Yaml.Timestamp

/-!
Tags: the kinds of values that a YAML node can be said to have. A plain scalar without a tag gets
the one that its text looks like.
-/

namespace EntityTagger.Yaml

inductive Tag
  | null
  | bool
  | int
  | float
  | str
  | binary
  | timestamp
  | merge
  | value
  | seq
  | map
  | set
  | omap
  | pairs
  | unknown
deriving DecidableEq, Repr

namespace Tag

/-- What the full names of the known tags begin with. -/
def standard : Text := text "tag:yaml.org,2002:"

def names : List (Text × Tag) :=
  [(text "null", .null), (text "bool", .bool), (text "int", .int), (text "float", .float),
    (text "str", .str), (text "binary", .binary), (text "timestamp", .timestamp),
    (text "merge", .merge), (text "value", .value), (text "seq", .seq), (text "map", .map),
    (text "set", .set), (text "omap", .omap), (text "pairs", .pairs)]

def ofName (name : Text) : Tag :=
  match names.find? fun entry => standard ++ entry.1 = name with
  | some entry => entry.2
  | none => .unknown

/-! ### What plain scalars look like -/

def isGrouped (c : Nat) : Bool := Text.isDigit c || c = 95

def isDigitOf (base c : Nat) : Bool :=
  match Text.hexValue? c with
  | some d => d < base
  | none => false

/-- A non-empty run of digits of a base and underscores. -/
def isNumeral (base : Nat) (t : Text) : Bool :=
  !t.isEmpty && t.all fun c => isDigitOf base c || c = 95

/-- Digits and underscores that begin with a digit, and not with a zero if `positive` says so. -/
def isGroupedNumeral (positive : Bool) (t : Text) : Bool :=
  match t with
  | [] => false
  | c :: _ => Text.isDigit c && !(positive && c = 48) && t.all isGrouped

/-- A number below sixty: one digit, or two of which the first is at most a five. -/
def isSixtieth : Text → Bool
  | [d] => Text.isDigit d
  | [d, e] => 48 ≤ d && d ≤ 53 && Text.isDigit e
  | _ => false

/-- A number in base sixty, its places between colons. -/
def isSexagesimal (positive : Bool) (t : Text) : Bool :=
  match Text.splitAt 58 t with
  | first :: second :: rest =>
    isGroupedNumeral positive first && (second :: rest).all isSixtieth
  | _ => false

def looksInt (t : Text) : Bool :=
  let (_, t) := Integer.splitSign t
  t = [48] || isGroupedNumeral true t || isSexagesimal true t ||
    match t with
    | 48 :: 98 :: digits => isNumeral 2 digits
    | 48 :: 120 :: digits => isNumeral 16 digits
    | 48 :: digits => isNumeral 8 digits
    | _ => false

/-- Nothing, or an exponent with a sign. -/
def isExponent : Text → Bool
  | [] => true
  | mark :: sign :: digits =>
    (mark = 101 || mark = 69) && (sign = 43 || sign = 45) && !digits.isEmpty &&
      digits.all Text.isDigit
  | _ => false

def looksFloat (t : Text) : Bool :=
  let (_, unsigned) := Integer.splitSign t
  let before := unsigned.takeWhile (· != 46)
  let after := (unsigned.dropWhile (· != 46)).drop 1
  let isFraction := isExponent (after.dropWhile isGrouped)
  unsigned.contains 46 &&
    ((isGroupedNumeral false before && isFraction) ||
      (isSexagesimal false before && after.all isGrouped) ||
      (t.head? = some 46 && isFraction && Text.isDigit (after.headD 0))) ||
    [text ".inf", text ".Inf", text ".INF"].contains unsigned ||
    [text ".nan", text ".NaN", text ".NAN"].contains t

/-- The words for truth and falsehood, in lower case. -/
def truths : List (Text × Bool) :=
  [(text "yes", true), (text "no", false), (text "true", true), (text "false", false),
    (text "on", true), (text "off", false)]

/-- A word in lower case, capitalised, or in upper case. -/
def isWritten (word t : Text) : Bool :=
  t = word || t = Text.upper (word.headD 0) :: word.tail || t = word.map Text.upper

def looksBool (t : Text) : Bool := truths.any fun (word, _) => isWritten word t

def looksNull (t : Text) : Bool := t.isEmpty || t = [126] || isWritten (text "null") t

/-- The tag of a plain scalar. A line break at its end does not count. -/
def ofPlain (t : Text) : Tag :=
  let t := if t.getLast? = some 10 then t.dropLast else t
  if looksNull t then .null
  else if looksBool t then .bool
  else if looksInt t then .int
  else if looksFloat t then .float
  else if Timestamp.isPlain t then .timestamp
  else if t = text "<<" then .merge
  else if t = text "=" then .value
  else if t = [33] ∨ t = [38] ∨ t = [42] then .unknown
  else .str

end Tag

end EntityTagger.Yaml
