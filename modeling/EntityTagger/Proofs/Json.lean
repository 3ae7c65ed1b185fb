import EntityTagger.Json.Writer
import Mathlib.Data.List.Basic
import Mathlib.Data.Int.Notation

/-! Written JSON stands on one line: its characters are printable ASCII, or stand in a text of the
value and are no controls. -/
namespace EntityTagger

def Text.isPrintable (c : ℕ) : Bool := 32 ≤ c && c < 127

namespace Json

mutual

def characters : Json → Text
  | .str s => s
  | .arr items => itemCharacters items
  | .obj members => memberCharacters members
  | _ => []

def itemCharacters : List Json → Text
  | [] => []
  | item :: rest => characters item ++ itemCharacters rest

def memberCharacters : List (Text × Json) → Text
  | [] => []
  | (name, value) :: rest => name ++ characters value ++ memberCharacters rest

end

end Json

def Text.Printable (t : Text) : Prop := ∀ c ∈ t, isPrintable c = true

instance (t : Text) : Decidable t.Printable :=
  inferInstanceAs (Decidable (∀ c ∈ t, Text.isPrintable c = true))

namespace Text.Printable

theorem nil : Printable [] := by simp [Printable]

theorem append {s t : Text} (hs : Printable s) (ht : Printable t) : Printable (s ++ t) := by
  intro c hc
  rcases List.mem_append.1 hc with hc | hc
  · exact hs c hc
  · exact ht c hc

theorem cons {c : ℕ} {t : Text} (hc : isPrintable c = true) (ht : Printable t) :
    Printable (c :: t) := by
  intro d hd
  rcases List.mem_cons.1 hd with rfl | hd
  · exact hc
  · exact ht d hd

theorem of_subset {s t : Text} (hs : Printable s) (h : t ⊆ s) : Printable t :=
  fun c hc => hs c (h hc)

theorem replicate (n : ℕ) {c : ℕ} (hc : isPrintable c = true) : Printable (List.replicate n c) := by
  intro d hd
  rwa [List.eq_of_mem_replicate hd]

theorem toDigits {base : ℕ} (hb : 1 < base) (hb' : base ≤ 16) (n : ℕ) :
    Printable ((Nat.toDigits base n).map Char.toNat) := by
  have hdigit : ∀ d < 16, isPrintable (Nat.digitChar d).toNat = true := by decide
  induction n using Nat.strongRecOn with
  | ind n ih =>
    rw [Nat.toDigits_eq_if hb]
    split_ifs with hn
    · exact cons (hdigit n (by omega)) nil
    · rw [List.map_append]
      have hmod : n % base < 16 := Nat.lt_of_lt_of_le (Nat.mod_lt n (by omega)) hb'
      exact append (ih (n / base) (Nat.div_lt_self (by omega) hb)) (cons (hdigit _ hmod) nil)

theorem ofNat (n : ℕ) : Printable (Text.ofNat n) := toDigits (by decide) (by decide) n

theorem ofInt (n : ℤ) : Printable (Text.ofInt n) := by
  unfold Text.ofInt
  split_ifs
  · exact cons (by decide) (ofNat _)
  · exact ofNat _

theorem ofNatHex (width n : ℕ) : Printable (Text.ofNatHex width n) :=
  append (replicate _ (by decide)) (toDigits (by decide) (by decide) n)

end Text.Printable

namespace Decimal

open Text

theorem printable_digits {style : Style} (d : Digits) : Printable (d.write style) := by
  have hdigits := Printable.ofNat d.digits
  have hsignificant : Printable
      (if ((Text.ofNat d.digits).reverse.dropWhile (· == 48)).reverse.isEmpty then [48] else
        ((Text.ofNat d.digits).reverse.dropWhile (· == 48)).reverse) := by
    split_ifs
    · exact .cons (by decide) .nil
    · refine hdigits.of_subset fun c hc => ?_
      have hc := (List.dropWhile_sublist _).subset (List.mem_reverse.1 hc)
      exact List.mem_reverse.1 hc
  unfold Digits.write
  dsimp only
  generalize (if ((Text.ofNat d.digits).reverse.dropWhile (· == 48)).reverse.isEmpty
      then [48] else ((Text.ofNat d.digits).reverse.dropWhile (· == 48)).reverse) = significant at *
  have htake : ∀ n, Printable (significant.take n) := fun n =>
    hsignificant.of_subset (List.take_subset n _)
  have hdrop : ∀ n, Printable (significant.drop n) := fun n =>
    hsignificant.of_subset (List.drop_subset n _)
  have hzeros : ∀ n, Printable (List.replicate n 48) := fun n => .replicate n (by decide)
  split_ifs
  · decide
  · exact ((show Printable (text "0.") by decide).append (hzeros _)).append hsignificant
  · exact (hsignificant.append (hzeros _)).append (by decide)
  · exact ((htake _).append (by decide)).append (hdrop _)
  · exact ((((htake _).append .nil).append (by decide)).append (hzeros _)).append (.ofNat _)
  · exact ((((htake _).append .nil).append (by decide)).append (hzeros _)).append (.ofNat _)
  · exact ((((htake _).append ((show Printable (text ".") by decide).append (hdrop _))).append
      (by decide)).append (hzeros _)).append (.ofNat _)
  · exact ((((htake _).append ((show Printable (text ".") by decide).append (hdrop _))).append
      (by decide)).append (hzeros _)).append (.ofNat _)

theorem printable_write {style : Style} {F : Format} (x : Binary F)
    (hnan : Printable (text style.nan)) (hinfinity : Printable (text style.infinity)) :
    Printable (write style x) := by
  have hsign : ∀ negative : Bool, Printable (if negative then text "-" else []) := by decide
  cases x with
  | nan => exact hnan
  | infinity negative => exact (hsign negative).append hinfinity
  | finite negative m e h => exact (hsign negative).append (printable_digits _)

end Decimal

/-- A text of printable ASCII and of characters of another one that are no controls. -/
def Text.WrittenFrom (source t : Text) : Prop :=
  ∀ c ∈ t, isPrintable c = true ∨ (32 ≤ c ∧ c ∈ source)

namespace Text.WrittenFrom

variable {source s t : Text}

theorem of_printable (h : Printable t) : WrittenFrom source t := fun c hc => Or.inl (h c hc)

theorem append (hs : WrittenFrom source s) (ht : WrittenFrom source t) :
    WrittenFrom source (s ++ t) := by
  intro c hc
  rcases List.mem_append.1 hc with hc | hc
  · exact hs c hc
  · exact ht c hc

theorem mono {more : Text} (h : source ⊆ more) (ht : WrittenFrom source t) :
    WrittenFrom more t := by
  intro c hc
  rcases ht c hc with hp | ⟨hlow, hm⟩
  · exact Or.inl hp
  · exact Or.inr ⟨hlow, h hm⟩

end Text.WrittenFrom

namespace Json

open Text

theorem writtenFrom_writeString (s : Text) : WrittenFrom s (writeString s) := by
  have hchar : ∀ c, WrittenFrom [c] (writeChar c) := by
    intro c
    unfold writeChar
    split_ifs
    all_goals first
      | exact .of_printable (by decide)
      | exact .of_printable ((show Printable (text "\\u") by decide).append (.ofNatHex _ _))
      | skip
    intro d hd
    obtain rfl := List.mem_singleton.1 hd
    exact Or.inr ⟨by omega, List.mem_singleton_self d⟩
  have hbody : WrittenFrom s (s.flatMap writeChar) := by
    intro d hd
    obtain ⟨c, hc, hd⟩ := List.mem_flatMap.1 hd
    exact (hchar c).mono (by simpa using hc) d hd
  exact (WrittenFrom.of_printable (show Printable [34] by decide)).append hbody |>.append
    (.of_printable (by decide))

theorem writtenFrom_member (name : Text) {value : Json}
    (h : WrittenFrom (characters value) (write value)) :
    WrittenFrom (name ++ characters value) (writeString name ++ text ": " ++ write value) := by
  have hname := (writtenFrom_writeString name).mono (List.subset_append_left _ (characters value))
  have hvalue := h.mono (List.subset_append_right name _)
  exact (hname.append (.of_printable (by decide))).append hvalue

mutual

/-- Written JSON has no controls, and no other characters than the value. -/
theorem writtenFrom_write : ∀ j : Json, WrittenFrom (characters j) (write j)
  | .null => .of_printable (by decide)
  | .bool true => .of_printable (by decide)
  | .bool false => .of_printable (by decide)
  | .int n => .of_printable (.ofInt n)
  | .float x => .of_printable (Decimal.printable_write x (by decide) (by decide))
  | .str s => writtenFrom_writeString s
  | .arr [] => .of_printable (by decide)
  | .arr (item :: items) => by
    have hitem := (writtenFrom_write item).mono
      (List.subset_append_left _ (itemCharacters items))
    have hitems := (writtenFrom_writeItems items).mono
      (List.subset_append_right (characters item) _)
    have hopen : WrittenFrom (characters (.arr (item :: items))) [91] := .of_printable (by decide)
    exact (hopen.append hitem).append hitems
  | .obj [] => .of_printable (by decide)
  | .obj ((name, value) :: members) => by
    have hmember := (writtenFrom_member name (writtenFrom_write value)).mono
      (List.subset_append_left _ (memberCharacters members))
    have hmembers := (writtenFrom_writeMembers members).mono
      (List.subset_append_right (name ++ characters value) _)
    have hopen : WrittenFrom (characters (.obj ((name, value) :: members))) [123] :=
      .of_printable (by decide)
    have hall := (hopen.append hmember).append hmembers
    simpa [write] using hall

theorem writtenFrom_writeItems : ∀ items, WrittenFrom (itemCharacters items) (writeItems items)
  | [] => .of_printable (by decide)
  | item :: items => by
    have hitem := (writtenFrom_write item).mono
      (List.subset_append_left _ (itemCharacters items))
    have hitems := (writtenFrom_writeItems items).mono
      (List.subset_append_right (characters item) _)
    exact ((WrittenFrom.of_printable (by decide)).append hitem).append hitems

theorem writtenFrom_writeMembers :
    ∀ members, WrittenFrom (memberCharacters members) (writeMembers members)
  | [] => .of_printable (by decide)
  | (name, value) :: members => by
    have hmember := (writtenFrom_member name (writtenFrom_write value)).mono
      (List.subset_append_left _ (memberCharacters members))
    have hmembers := (writtenFrom_writeMembers members).mono
      (List.subset_append_right (name ++ characters value) _)
    have hcomma : WrittenFrom (memberCharacters ((name, value) :: members)) (text ", ") :=
      .of_printable (by decide)
    have hall := (hcomma.append hmember).append hmembers
    simpa [writeMembers] using hall

end

end Json

end EntityTagger
