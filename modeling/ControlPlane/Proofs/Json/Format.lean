import ControlPlane.Json.Format
import ControlPlane.Proofs.Json.Tree
import Mathlib.Data.List.TakeWhile
import Mathlib.Data.List.Nodup

/-!
# Records are read back

A value is *restored* by a format when reading what was written gives the value again
(`Format.Restores`). A field restores its part of a record, and what the fields of a layout
restore one after another from the blank record is the whole record
(`Format.Layout.ofText?_toText`). Conversely what every field of a layout keeps holds of every
record that is read, from whatever text (`Format.Layout.ensures_format`).

Only values without containers and fractions are written by the fields treated here, so their
texts are clean.
-/

set_option autoImplicit false

namespace ControlPlane.Json

/-! ## Values without containers -/

namespace Spelling

theorem takeWhile_digits (n : Nat) :
    (Decimal.digits n).takeWhile Decimal.isDigit = Decimal.digits n :=
  List.takeWhile_eq_self_iff.mpr fun _ hd => Decimal.isDigit_of_mem_digits hd

theorem dropWhile_digits (n : Nat) : (Decimal.digits n).dropWhile Decimal.isDigit = [] :=
  List.dropWhile_eq_nil_iff.mpr fun _ hd => Decimal.isDigit_of_mem_digits hd

/-- The digits of a number are all there is to its spelling. -/
theorem ofLexeme_digits (n : Nat) :
    ofLexeme (Decimal.digits n) = ⟨false, Decimal.digits n, none, none⟩ := by
  have hsign : ((Decimal.digits n).head? == some 45) = false := by
    rcases Decimal.digits_eq_zero_or_cons n with h | ⟨d, ds, h, -⟩
    · rw [h]
      rfl
    · have hd := Decimal.isDigit_of_mem_digits (n := n) (h ▸ List.mem_cons_self)
      rw [h, List.head?_cons, beq_eq_false_iff_ne]
      rintro ⟨⟩
      cases hd
  simp [ofLexeme, hsign, takeWhile_digits, dropWhile_digits]

theorem int?_ofLexeme_digits {n : Nat} (h : n < 2 ^ 64) :
    (ofLexeme (Decimal.digits n)).int? = some (n : Int) := by
  rw [ofLexeme_digits]
  simp only [int?, Decimal.value_digits]
  exact if_pos h

/-- A sign before the digits is all that it changes. -/
theorem ofLexeme_negative (n : Nat) :
    ofLexeme (45 :: Decimal.digits n) = ⟨true, Decimal.digits n, none, none⟩ := by
  simp [ofLexeme, takeWhile_digits, dropWhile_digits]

theorem int?_ofLexeme_negative {n : Nat} (hpos : 0 < n) (h : n ≤ 2 ^ 63) :
    (ofLexeme (45 :: Decimal.digits n)).int? = some (-(n : Int)) := by
  rw [ofLexeme_negative]
  simp only [int?, Decimal.value_digits, if_true]
  exact if_pos ⟨hpos, h⟩

end Spelling

namespace Value

/-- A value without containers, fractions and signs. -/
def isPlain : Value → Bool
  | .null | .bool _ | .string _ => true
  | .int n => 0 ≤ n
  | .float _ | .array _ | .object _ => false

theorem isClean_ofString (s : String) : (Token.string (Units.ofString s)).IsClean := by
  intro u hu
  obtain ⟨b, -, rfl⟩ := List.mem_map.mp hu
  exact ⟨b, rfl⟩

theorem isClean_of_isPlain {v : Value} (h : v.isPlain = true) : v.toTree.IsClean := by
  cases v with
  | null | bool b =>
      intro tok htok
      obtain rfl := List.mem_singleton.mp htok
      trivial
  | int n =>
      intro tok htok
      obtain rfl := List.mem_singleton.mp htok
      have hn : ¬ n < 0 := by simpa [isPlain] using h
      rw [Decimal.integer, if_neg hn]
      exact Lexer.isNumeral_digits n.natAbs
  | string s =>
      intro tok htok
      obtain rfl := List.mem_singleton.mp htok
      exact isClean_ofString s
  | float x => cases h
  | array vs => cases h
  | object ms => cases h

/-- The members after the first. -/
theorem isClean_moreMembers {ms : List (String × Value)} (h : ∀ m ∈ ms, m.2.toTree.IsClean) :
    ∀ tok ∈ Tree.moreMemberTokens (memberTrees ms), tok.IsClean := by
  induction ms with
  | nil =>
      intro tok htok
      obtain rfl := List.mem_singleton.mp htok
      trivial
  | cons m ms ih =>
      obtain ⟨k, v⟩ := m
      rw [List.forall_mem_cons] at h
      rw [memberTrees, Tree.moreMemberTokens, List.forall_mem_cons, List.forall_mem_cons,
        List.forall_mem_cons, List.forall_mem_append]
      exact ⟨trivial, isClean_ofString k, trivial, h.1, ih h.2⟩

/-- An object of clean values is clean. -/
theorem isClean_object {ms : List (String × Value)} (h : ∀ m ∈ ms, m.2.toTree.IsClean) :
    (Value.object ms).toTree.IsClean := by
  rw [toTree, Tree.IsClean, Tree.tokens, List.forall_mem_cons]
  refine ⟨trivial, ?_⟩
  cases ms with
  | nil =>
      intro tok htok
      obtain rfl := List.mem_singleton.mp htok
      trivial
  | cons m ms =>
      obtain ⟨k, v⟩ := m
      rw [List.forall_mem_cons] at h
      rw [memberTrees, Tree.memberTokens, List.forall_mem_cons, List.forall_mem_cons,
        List.forall_mem_append]
      exact ⟨isClean_ofString k, trivial, h.1, isClean_moreMembers h.2⟩

end Value

theorem Units.text?_ofString (s : String) : (Units.ofString s).text? = some s := by
  have hbytes (bs : Bytes) : Units.bytes? (bs.map .octet) = some bs := by
    induction bs with
    | nil => rfl
    | cons b bs ih => rw [List.map_cons, Units.bytes?, ih, Option.map_some]
  rw [Units.text?, Units.ofString, hbytes]
  exact Bytes.text?_ofString s

namespace Format

/-! ## Formats -/

/-- Reading what was written of a value gives the value. -/
structure Restores {α : Type} (f : Format α) (a : α) : Prop where
  plain : (f.write a).isPlain = true
  read_write : ∀ d, f.read d (f.write a).toTree = some a

theorem restores_string (s : String) : string.Restores s := by
  refine ⟨rfl, fun d => ?_⟩
  exact Units.text?_ofString s

theorem restores_bool (b : Bool) : bool.Restores b := ⟨rfl, fun _ => rfl⟩

/-- A number that fits into so many bits is read back. -/
theorem integer?_toTree {bits n : Nat} (hbits : bits ≤ 64) (h : n < 2 ^ bits) :
    integer? 0 (Nat.pow 2 bits - 1) (Value.int n).toTree = some (n : Int) := by
  have hsign : Decimal.integer (n : Int) = Decimal.digits n := if_neg (by omega)
  have hfits : n < 2 ^ 64 := lt_of_lt_of_le h (Nat.pow_le_pow_right (by decide) hbits)
  have hhigh : (n : Int) ≤ (2 ^ bits : Nat) - 1 := by omega
  rw [Value.toTree, integer?, hsign, Spelling.int?_ofLexeme_digits hfits]
  exact if_pos ⟨by omega, hhigh⟩

theorem restores_uint8 (n : UInt8) : uint8.Restores n := by
  refine ⟨by simp [uint8, Value.isPlain], fun d => ?_⟩
  simp only [uint8]
  rw [integer?_toTree (by decide) n.toNat_lt, Option.map_some, Int.toNat_natCast,
    UInt8.ofNat_toNat]

theorem restores_uint32 (n : UInt32) : uint32.Restores n := by
  refine ⟨by simp [uint32, Value.isPlain], fun d => ?_⟩
  simp only [uint32]
  rw [integer?_toTree (by decide) n.toNat_lt, Option.map_some, Int.toNat_natCast,
    UInt32.ofNat_toNat]

theorem restores_uint64 (n : UInt64) : uint64.Restores n := by
  refine ⟨by simp [uint64, Value.isPlain], fun d => ?_⟩
  simp only [uint64]
  rw [integer?_toTree (by decide) n.toNat_lt, Option.map_some, Int.toNat_natCast,
    UInt64.ofNat_toNat]

/-- A value that is written as a text is restored when its text is read back. -/
theorem restores_of_text {α : Type} {f : Format α} {ofText? : String → Option α} {a : α} {s : String}
    (hread : ∀ d t, f.read d t = (string.read d t).bind ofText?) (hwrite : f.write a = .string s)
    (h : ofText? s = some a) : f.Restores a := by
  have hstring := restores_string s
  refine ⟨?_, fun d => ?_⟩
  · rw [hwrite]
    exact hstring.plain
  · rw [hread, hwrite, show string.read d (Value.string s).toTree = some s from hstring.read_write d]
    exact h

theorem restores_objectId (id : ObjectId) : objectId.Restores id := by
  refine restores_of_text (s := id.toHex) (fun _ _ => rfl) rfl ?_
  rw [ObjectId.parsePayload_toHex]
  rfl

/-- The first case with the name of a case has to be that case. -/
theorem restores_cases {α : Type} {all : List α} {name : α → String} {a : α}
    (h : all.find? (fun b => name b == name a) = some a) : (cases all name).Restores a := by
  refine ⟨rfl, fun d => ?_⟩
  show ((Units.ofString (name a)).text?).bind _ = some a
  rw [Units.text?_ofString]
  exact h

/-- An absent value is restored, and a value that is not written as `null`. -/
theorem restores_option {α : Type} {f : Format α} {a? : Option α}
    (h : ∀ a, a? = some a → f.Restores a ∧ f.write a ≠ .null) : (option f).Restores a? := by
  cases a? with
  | none => exact ⟨rfl, fun d => rfl⟩
  | some a =>
      obtain ⟨hrestores, hnull⟩ := h a rfl
      refine ⟨hrestores.plain, fun d => ?_⟩
      have hread := hrestores.read_write d
      show (option f).read d (f.write a).toTree = some (some a)
      -- the reader looks for `null` before it looks at the value
      cases hv : f.write a with
      | null => exact absurd hv hnull
      | _ =>
          rw [hv] at hread
          show (f.read d _).map some = _
          rw [hread]
          rfl

/-! ## Fields -/

namespace FieldFormat

variable {σ α : Type}

/-- What is written of the field of a record leads from one record to another; a field that is
left out leads nowhere. -/
def Restores (f : FieldFormat σ) (s acc next : σ) : Prop :=
  match f.write s with
  | some v => v.isPlain = true ∧ ∀ d, f.read d v.toTree acc = some next
  | none => next = acc

theorem restores_field {name : String} {f : Format α} {get : σ → α} {set : α → σ → σ} {s : σ}
    (acc : σ) (h : f.Restores (get s)) : (field name f get set).Restores s acc (set (get s) acc) := by
  refine ⟨h.plain, fun d => ?_⟩
  show (f.read d (f.write (get s)).toTree).map (fun a => set a acc) = some (set (get s) acc)
  rw [h.read_write, Option.map_some]

theorem restores_optionalField {name : String} {f : Format α} {get : σ → Option α}
    {set : Option α → σ → σ} {s : σ} (acc : σ)
    (h : ∀ a, get s = some a → f.Restores a ∧ f.write a ≠ .null) :
    (optionalField name f get set).Restores s acc (set (get s) acc) := by
  have hfield : (field name (option f) get set).Restores s acc (set (get s) acc) :=
    restores_field acc (restores_option h)
  exact hfield

/-- A field that is left out is restored where it is blank. -/
theorem restores_omittedField {name : String} {f : Format α} {get : σ → Option α}
    {set : Option α → σ → σ} {s acc : σ}
    (h : ∀ a, get s = some a → f.Restores a ∧ f.write a ≠ .null) (hblank : set none acc = acc) :
    (omittedField name f get set).Restores s acc (set (get s) acc) := by
  have hopt : (optionalField name f get set).Restores s acc (set (get s) acc) :=
    restores_optionalField acc h
  show match (get s).map f.write with
    | some v => _
    | none => _
  cases hget : get s with
  | none => exact hblank
  | some a =>
      rw [FieldFormat.Restores] at hopt
      simp only [optionalField, field, option, hget] at hopt
      exact hopt

end FieldFormat

/-! ## Layouts -/

namespace Layout

variable {σ : Type} {s : σ}

/-- What is written of the fields of a record leads from one record to another. -/
inductive Restores (s : σ) : List (FieldFormat σ) → σ → σ → Prop
  | nil (acc : σ) : Restores s [] acc acc
  | cons {f : FieldFormat σ} {fs : List (FieldFormat σ)} {acc next last : σ}
      (h : f.Restores s acc next) (rest : Restores s fs next last) : Restores s (f :: fs) acc last

/-- The members to write of some of the fields. -/
def membersOf (fs : List (FieldFormat σ)) (s : σ) : List (String × Value) :=
  fs.filterMap fun f => (f.write s).map (f.name, ·)

theorem plain_of_restores {fs : List (FieldFormat σ)} {acc last : σ} (h : Restores s fs acc last) :
    ∀ m ∈ membersOf fs s, m.2.isPlain = true := by
  induction h with
  | nil acc =>
      intro m hm
      cases hm
  | @cons f fs acc next last h rest ih =>
      intro m hm
      rw [FieldFormat.Restores] at h
      cases hv : f.write s with
      | none =>
          rw [membersOf, List.filterMap_cons, hv] at hm
          exact ih m hm
      | some v =>
          rw [hv] at h
          rw [membersOf, List.filterMap_cons, hv] at hm
          rcases List.mem_cons.mp hm with rfl | hm
          · exact h.1
          · exact ih m hm

theorem find?_eq_some {fs : List (FieldFormat σ)} (h : (fs.map (·.name)).Nodup)
    {f : FieldFormat σ} (hf : f ∈ fs) : fs.find? (·.name == f.name) = some f := by
  induction fs with
  | nil => cases hf
  | cons g fs ih =>
      rw [List.map_cons, List.nodup_cons] at h
      obtain ⟨hnew, hnodup⟩ := h
      rw [List.find?_cons]
      rcases List.mem_cons.mp hf with rfl | hf
      · rw [beq_self_eq_true]
      · have hne : g.name ≠ f.name := fun heq => hnew (heq ▸ List.mem_map_of_mem hf)
        rw [beq_eq_false_iff_ne.mpr hne]
        exact ih hnodup hf

/-- A member is read into the field of its name, unless the name was seen before. -/
theorem readMembers_cons {l : Layout σ} {d : Nat} {name : String} {t : Tree} {f : FieldFormat σ}
    {seen : List String} {acc next : σ} (hf : l.fields.find? (·.name == name) = some f)
    (hseen : name ∉ seen) (hread : f.read d t acc = some next) (ms : List (Units × Tree)) :
    l.readMembers d ((Units.ofString name, t) :: ms) seen acc
      = l.readMembers d ms (name :: seen) next := by
  have hnotseen : seen.contains name = false := by simpa using hseen
  rw [readMembers, Units.text?_ofString]
  simp only [Option.bind_eq_bind, Option.bind_some, hf, hnotseen, hread]
  rfl

/-- **The members that were written are read back**, each into its own field. -/
theorem readMembers_of_restores {l : Layout σ} (hnodup : (l.fields.map (·.name)).Nodup) (d : Nat)
    {fs : List (FieldFormat σ)} {acc last : σ} (h : Restores s fs acc last)
    (hfs : ∀ f ∈ fs, f ∈ l.fields) (hnames : (fs.map (·.name)).Nodup) {seen : List String}
    (hseen : ∀ f ∈ fs, f.name ∉ seen) :
    ∃ seen', l.readMembers d (Value.memberTrees (membersOf fs s)) seen acc
      = some (seen', last) := by
  induction h generalizing seen with
  | nil acc => exact ⟨seen, rfl⟩
  | @cons f fs acc next last h rest ih =>
      rw [List.forall_mem_cons] at hfs hseen
      rw [List.map_cons, List.nodup_cons] at hnames
      obtain ⟨hnew, hnames⟩ := hnames
      rw [FieldFormat.Restores] at h
      cases hv : f.write s with
      | none =>
          -- a field that was left out has no member, and leads nowhere
          obtain rfl : next = acc := by rwa [hv] at h
          rw [membersOf, List.filterMap_cons, hv]
          exact ih hfs.2 hnames hseen.2
      | some v =>
          rw [hv] at h
          -- the later members have other names than this one
          have hlater : ∀ g ∈ fs, g.name ∉ f.name :: seen := by
            intro g hg hmem
            rcases List.mem_cons.mp hmem with heq | hmem
            · exact hnew (heq ▸ List.mem_map_of_mem hg)
            · exact hseen.2 g hg hmem
          obtain ⟨seen', hread⟩ := ih hfs.2 hnames hlater
          refine ⟨seen', ?_⟩
          rw [membersOf, List.filterMap_cons, hv]
          show l.readMembers d ((Units.ofString f.name, v.toTree) ::
            Value.memberTrees (membersOf fs s)) seen acc = _
          rw [readMembers_cons (find?_eq_some hnodup hfs.1) hseen.1 (h.2 d)]
          exact hread

/-- A text is read when the members of its object are, where nothing has to be given. -/
theorem ofText?_of_readMembers {l : Layout σ} (hlenient : l.isStrict = false)
    {ms : List (String × Value)} (hclean : (Value.object ms).toTree.IsClean) {seen : List String}
    {s : σ} (hread : l.readMembers 126 (Value.memberTrees ms) [] l.blank = some (seen, s)) :
    l.format.ofText? (Value.object ms).write = some s := by
  have hcovered : l.isCovered seen = true := by simp [isCovered, hlenient]
  show (Tree.ofText? (Value.object ms).toTree.write).bind _ = some s
  rw [Tree.ofText?_write hclean, Option.bind_some]
  show (l.readMembers 126 (Value.memberTrees ms) [] l.blank >>= _) = some s
  rw [hread]
  exact if_pos hcovered

/-- **A record is read back from its text**, where nothing has to be given. -/
theorem ofText?_toText {l : Layout σ} (hlenient : l.isStrict = false)
    (hnodup : (l.fields.map (·.name)).Nodup) (h : Restores s l.fields l.blank s) :
    l.format.ofText? (l.format.toText s) = some s := by
  have hclean : (Value.object (l.toMembers s)).toTree.IsClean :=
    Value.isClean_object fun m hm => Value.isClean_of_isPlain (plain_of_restores h m hm)
  have hnone : ∀ f ∈ l.fields, f.name ∉ ([] : List String) := fun f _ => List.not_mem_nil
  obtain ⟨seen, hread⟩ := readMembers_of_restores hnodup 126 h (fun _ hf => hf) hnodup hnone
  exact ofText?_of_readMembers hlenient hclean hread

end Layout

/-! ## What is read -/

/-- Everything that a format reads has a property. -/
def Ensures {α : Type} (f : Format α) (P : α → Prop) : Prop := ∀ d t a, f.read d t = some a → P a

/-- An absent value, or one that the format reads. -/
theorem Ensures.option {α : Type} {f : Format α} {P : α → Prop} (h : f.Ensures P) :
    (option f).Ensures fun a? => ∀ a, a? = some a → P a := by
  intro d t a? hread a ha
  subst ha
  simp only [Format.option] at hread
  split at hread
  next => cases hread
  next =>
    obtain ⟨b, hb, heq⟩ := Option.map_eq_some_iff.mp hread
    cases heq
    exact h _ _ _ hb

namespace FieldFormat

variable {σ α : Type}

/-- Reading the field keeps a property of the record. -/
def Keeps (f : FieldFormat σ) (P : σ → Prop) : Prop :=
  ∀ d t s s', f.read d t s = some s' → P s → P s'

theorem keeps_field {name : String} {f : Format α} {get : σ → α} {set : α → σ → σ} {P : σ → Prop}
    {Q : α → Prop} (h : f.Ensures Q) (hset : ∀ a s, Q a → P s → P (set a s)) :
    (field name f get set).Keeps P := by
  intro d t s s' hread hs
  obtain ⟨a, ha, rfl⟩ := Option.map_eq_some_iff.mp hread
  exact hset a s (h d t a ha) hs

end FieldFormat

namespace Layout

variable {σ : Type} {l : Layout σ} {P : σ → Prop}

theorem keeps_readMembers (h : ∀ f ∈ l.fields, f.Keeps P) {d : Nat} {ms : List (Units × Tree)}
    {seen seen' : List String} {s s' : σ} (hread : l.readMembers d ms seen s = some (seen', s'))
    (hs : P s) : P s' := by
  induction ms generalizing seen s with
  | nil =>
      cases hread
      exact hs
  | cons m ms ih =>
      obtain ⟨k, t⟩ := m
      simp only [readMembers, Option.bind_eq_bind, Option.bind_eq_some_iff] at hread
      obtain ⟨name, -, hread⟩ := hread
      split at hread
      next => exact ih hread hs
      next f hf =>
        -- a name that was seen before is refused
        split at hread
        next => cases hread
        next =>
          obtain ⟨next, hnext, hread⟩ := Option.bind_eq_some_iff.mp hread
          exact ih hread (h f (List.mem_of_find?_eq_some hf) _ _ _ _ hnext hs)

theorem keeps_readItems {fs : List (FieldFormat σ)} (h : ∀ f ∈ fs, f.Keeps P) {d : Nat}
    {ts : List Tree} {s s' : σ} (hread : l.readItems d fs ts s = some s') (hs : P s) : P s' := by
  induction fs generalizing ts s with
  | nil =>
      cases ts with
      | nil =>
          cases hread
          exact hs
      | cons t ts => cases hread
  | cons f fs ih =>
      rw [List.forall_mem_cons] at h
      cases ts with
      | nil =>
          rw [readItems] at hread
          split at hread
          next => cases hread
          next =>
            cases hread
            exact hs
      | cons t ts =>
          obtain ⟨next, hnext, hread⟩ := Option.bind_eq_some_iff.mp hread
          exact ih h.2 hread (h.1 _ _ _ _ hnext hs)

/-- **What is read of a record.** A property of the blank record that every field keeps holds of
every record that is read. -/
theorem ensures_format (hblank : P l.blank) (h : ∀ f ∈ l.fields, f.Keeps P) :
    l.format.Ensures P := by
  intro d t s hread
  simp only [format] at hread
  split at hread
  next =>
    obtain ⟨⟨seen, s'⟩, hmembers, hread⟩ := Option.bind_eq_some_iff.mp hread
    split at hread
    next =>
      cases hread
      exact keeps_readMembers h hmembers hblank
    next => cases hread
  next => exact keeps_readItems h hread hblank
  next => cases hread

theorem ensures_ofText? (hblank : P l.blank) (h : ∀ f ∈ l.fields, f.Keeps P) {text : Bytes} {s : σ}
    (hread : l.format.ofText? text = some s) : P s := by
  obtain ⟨t, -, hread⟩ := Option.bind_eq_some_iff.mp hread
  exact ensures_format hblank h _ _ _ hread

end Layout
end Format
end ControlPlane.Json
