import Relay.Library.Json
import Relay.Library.Table

/-!
# JSON codecs

A codec writes the values of a type and reads them back. It reads no value that does not
fit, and reads what it writes of the values that fit. An object is read by its properties,
so that neither their order nor further ones matter.
-/

namespace Json

structure Codec (α : Type) where
  encode : α → Written
  decode : Parsed → Option α
  Fits : α → Prop
  decode_encode : ∀ a, Fits a → decode (encode a).parsed = some a
  fits : ∀ v a, decode v = some a → Fits a

namespace Codec

variable {α β : Type}

/-! ## Texts -/

section Text

variable (c : Codec α)

def encodeText (a : α) : String := stringify (c.encode a)

def decodeText (text : String) : Option α := (parse text).bind c.decode

/-- **A written text is read back.** -/
theorem decodeText_encodeText {a : α} (fits : c.Fits a) : c.decodeText (c.encodeText a) = some a := by
  rw [decodeText, encodeText, parse_stringify, Option.bind_some, c.decode_encode a fits]

theorem encodeText_line (a : α) : '\n' ∉ (c.encodeText a).toList := stringify_line _

end Text

/-! ## Plain values -/

def string : Codec String where
  encode := .string
  decode := fun v => match v with
    | .string ps => string? ps
    | _ => none
  Fits _ := True
  decode_encode s _ := string?_points s
  fits _ _ _ := trivial

/-- The whole numbers that stand for themselves: `Number.isSafeInteger`. -/
def integer : Codec ℤ where
  encode := .number
  decode := fun v => match v with
    | .number (.finite x) => if x.den = 1 ∧ x.num.natAbs < 2 ^ 53 then some x.num else none
    | _ => none
  Fits n := n.natAbs < 2 ^ 53
  decode_encode n small := by
    rw [Value.parsed, Binary64.round_intCast small]
    exact if_pos ⟨Rat.den_intCast n, small⟩
  fits v n read := by
    split at read
    · split at read
      · next whole =>
        cases read
        exact whole.2
      · cases read
    · cases read

def boolean : Codec Bool where
  encode := .bool
  decode := fun v => match v with
    | .bool b => some b
    | _ => none
  Fits _ := True
  decode_encode _ _ := rfl
  fits _ _ _ := trivial

/-- A check that a value passes, or what it is turned into. -/
def refine (c : Codec α) (make : α → Option β) (parts : β → α)
    (make_parts : ∀ b, c.Fits (parts b) → make (parts b) = some b)
    (parts_make : ∀ a b, make a = some b → parts b = a) : Codec β where
  encode b := c.encode (parts b)
  decode v := (c.decode v).bind make
  Fits b := c.Fits (parts b)
  decode_encode b fits := by rw [c.decode_encode _ fits, Option.bind_some, make_parts b fits]
  fits v b read := by
    obtain ⟨a, decoded, checked⟩ := Option.bind_eq_some_iff.1 read
    rw [parts_make a b checked]
    exact c.fits v a decoded

/-- The values for which a test holds. -/
def check (c : Codec α) (test : α → Bool) : Codec α where
  encode := c.encode
  decode v := (c.decode v).filter test
  Fits a := c.Fits a ∧ test a = true
  decode_encode a fits := by rw [c.decode_encode a fits.1, Option.filter_some, if_pos fits.2]
  fits v a read := by
    obtain ⟨decoded, holds⟩ := Option.filter_eq_some_iff.1 read
    exact ⟨c.fits v a decoded, holds⟩

/-- Members that are told apart by their texts. -/
def literals (text : α → String) (members : List α) (all : ∀ a, a ∈ members) (apart : Function.Injective text) :
    Codec α :=
  string.refine (fun s => members.find? fun a => text a = s) text
    (by
      intro a _
      have among : ∃ b ∈ members, decide (text b = text a) = true := ⟨a, all a, decide_eq_true rfl⟩
      obtain ⟨b, found⟩ := Option.isSome_iff_exists.1 (List.find?_isSome.2 among)
      have same := List.find?_some found
      rw [found, apart (of_decide_eq_true same)])
    (by
      intro s a found
      have same := List.find?_some found
      exact of_decide_eq_true same)

/-- `null` besides the values of a codec that does not write it. -/
def nullOr (c : Codec α) (proper : ∀ a, c.encode a ≠ .null) : Codec (Option α) where
  encode a := a.elim .null c.encode
  decode v := match v with
    | .null => some none
    | v => (c.decode v).map some
  Fits a := ∀ b ∈ a, c.Fits b
  decode_encode a fits := by
    cases a with
    | none => rfl
    | some a =>
      have decoded := c.decode_encode a (fits a rfl)
      show (match (c.encode a).parsed with | .null => some none | v => (c.decode v).map some) = _
      split
      · next null => exact absurd (Value.parsed_eq_null.1 null) (proper a)
      · rw [decoded, Option.map_some]
  fits v a read := by
    split at read
    · cases read
      intro b member
      cases member
    · obtain ⟨b, decoded, rfl⟩ := Option.map_eq_some_iff.1 read
      intro b' member
      cases member
      exact c.fits _ b decoded

def list (c : Codec α) : Codec (List α) where
  encode as := .array (as.map c.encode)
  decode v := match v with
    | .array items => items.mapM c.decode
    | _ => none
  Fits as := ∀ a ∈ as, c.Fits a
  decode_encode as fits := by
    show (parsedItems (as.map c.encode)).mapM c.decode = some as
    induction as with
    | nil => rfl
    | cons a as ih =>
      rw [List.map_cons, parsedItems, List.mapM_cons, c.decode_encode a (fits a List.mem_cons_self),
        ih fun a' member => fits a' (List.mem_cons_of_mem _ member)]
      rfl
  fits v as read := by
    split at read
    · intro a member
      obtain ⟨v, -, decoded⟩ := Sql.mapM_mem read member
      exact c.fits v a decoded
    · cases read

end Codec

/-! ## Objects -/

/-- The last of equal keys counts. -/
def property (members : List (List CodePoint × Parsed)) (key : String) : Option Parsed := members.reverse.lookup (points key)

theorem lookup_of_mem {κ α : Type} [BEq κ] [LawfulBEq κ] {members : List (κ × α)} (nodup : (members.map Prod.fst).Nodup)
    {m : κ × α} (member : m ∈ members) : members.lookup m.1 = some m.2 := by
  induction members with
  | nil => cases member
  | cons m' members ih =>
    rw [List.map_cons, List.nodup_cons] at nodup
    obtain rfl | later := List.mem_cons.1 member
    · rw [List.lookup_cons, beq_self_eq_true]
    · have other : m.1 ≠ m'.1 := by
        intro same
        exact nodup.1 (same ▸ List.mem_map_of_mem later)
      rw [List.lookup_cons, beq_eq_false_iff_ne.2 other]
      exact ih nodup.2 later

/-- Of different keys, each is read as it is written. -/
theorem property_of_mem {members : List (String × Written)} (nodup : (members.map Prod.fst).Nodup) {m : String × Written}
    (member : m ∈ members) : property (parsedMembers members) m.1 = some m.2.parsed := by
  have keys : ((parsedMembers members).map Prod.fst).Nodup := by
    have first : (parsedMembers members).map Prod.fst = (members.map Prod.fst).map points := by
      simp [parsedMembers_eq, Function.comp_def]
    rw [first]
    exact nodup.map points_injective
  have among : (points m.1, m.2.parsed) ∈ parsedMembers members := by
    rw [parsedMembers_eq]
    exact List.mem_map_of_mem member
  exact lookup_of_mem (m := (points m.1, m.2.parsed)) (by rw [List.map_reverse]; exact List.nodup_reverse.2 keys)
    (List.mem_reverse.2 among)

/-- The properties of an object and how it is read by them. -/
structure Fields (α : Type) where
  keys : List String
  write : α → List (String × Written)
  read : (String → Option Parsed) → Option α
  Fits : α → Prop
  keys_write : ∀ a, ((write a).map Prod.fst).Sublist keys
  read_write : ∀ a, Fits a → ∀ properties : String → Option Parsed,
    (∀ m ∈ write a, properties m.1 = some m.2.parsed) → read properties = some a
  fits : ∀ properties a, read properties = some a → Fits a

namespace Fields

variable {α β : Type}

def one (key : String) (c : Codec α) : Fields α where
  keys := [key]
  write a := [(key, c.encode a)]
  read properties := (properties key).bind c.decode
  Fits := c.Fits
  keys_write _ := List.Sublist.refl _
  read_write a fits properties given := by
    rw [given (key, c.encode a) List.mem_cons_self, Option.bind_some, c.decode_encode a fits]
  fits properties a read := by
    obtain ⟨v, -, decoded⟩ := Option.bind_eq_some_iff.1 read
    exact c.fits v a decoded

def and (f : Fields α) (g : Fields β) : Fields (α × β) where
  keys := f.keys ++ g.keys
  write p := f.write p.1 ++ g.write p.2
  read properties := (f.read properties).bind fun a => (g.read properties).map fun b => (a, b)
  Fits p := f.Fits p.1 ∧ g.Fits p.2
  keys_write p := by
    rw [List.map_append]
    exact (f.keys_write p.1).append (g.keys_write p.2)
  read_write p fits properties given := by
    have first := f.read_write p.1 fits.1 properties fun m member => given m (List.mem_append_left _ member)
    have second := g.read_write p.2 fits.2 properties fun m member => given m (List.mem_append_right _ member)
    rw [first, Option.bind_some, second, Option.map_some]
  fits properties p read := by
    obtain ⟨a, first, rest⟩ := Option.bind_eq_some_iff.1 read
    obtain ⟨b, second, rfl⟩ := Option.map_eq_some_iff.1 rest
    exact ⟨f.fits properties a first, g.fits properties b second⟩

def refine (f : Fields α) (make : α → Option β) (parts : β → α)
    (make_parts : ∀ b, f.Fits (parts b) → make (parts b) = some b)
    (parts_make : ∀ a b, make a = some b → parts b = a) : Fields β where
  keys := f.keys
  write b := f.write (parts b)
  read properties := (f.read properties).bind make
  Fits b := f.Fits (parts b)
  keys_write b := f.keys_write (parts b)
  read_write b fits properties given := by
    rw [f.read_write (parts b) fits properties given, Option.bind_some, make_parts b fits]
  fits properties b read := by
    obtain ⟨a, first, checked⟩ := Option.bind_eq_some_iff.1 read
    rw [parts_make a b checked]
    exact f.fits properties a first

/-- An object of its own. -/
def codec (f : Fields α) (nodup : f.keys.Nodup) : Codec α where
  encode a := .object (f.write a)
  decode v := match v with
    | .object members => f.read (property members)
    | _ => none
  Fits := f.Fits
  decode_encode a fits :=
    f.read_write a fits _ fun _ member => property_of_mem (nodup.sublist (f.keys_write a)) member
  fits v a read := by
    split at read
    · exact f.fits _ a read
    · cases read

/-- **Neither the order of the properties nor further ones matter.** -/
theorem decode_of_properties (f : Fields α) (nodup : f.keys.Nodup) {a : α} (fits : f.Fits a)
    {members : List (List CodePoint × Parsed)} (given : ∀ m ∈ f.write a, property members m.1 = some m.2.parsed) :
    (f.codec nodup).decode (.object members) = some a :=
  f.read_write a fits _ given

theorem decode_of_perm (f : Fields α) (nodup : f.keys.Nodup) {a : α} (fits : f.Fits a) {members : List (String × Written)}
    (perm : members.Perm (f.write a)) : (f.codec nodup).decode (Value.object members).parsed = some a := by
  refine f.decode_of_properties nodup fits fun m member => property_of_mem ?_ (perm.mem_iff.2 member)
  exact ((perm.map Prod.fst).nodup_iff).2 (nodup.sublist (f.keys_write a))

end Fields

end Json
