import ControlPlane.Json.Token
import ControlPlane.Proofs.Text.Decimal
import ControlPlane.Proofs.Text.Hex

/-!
# Tokens are read back

The lexer is followed through the text of one token. It ends between tokens, except after a
number: a number is only over when the next octet is seen, so what the lexer *holds* counts a
number that could end (`Lexer.Holds`). Tokens that close something or separate are read from any
such state (`Lexer.Holds.reads_delimiter`), every other one from between tokens
(`Lexer.reads_of_isClean`).
-/

set_option autoImplicit false

namespace ControlPlane.Json

namespace Lexer

/-! ## Reading a piece of text -/

/-- Octets lead from one state of the lexer to another. -/
def Reads (l : Lexer) (bs : Bytes) (l' : Lexer) : Prop := bs.foldlM step l = some l'

theorem Reads.cons {l m l' : Lexer} {b : UInt8} {bs : Bytes} (h : l.step b = some m)
    (h' : m.Reads bs l') : l.Reads (b :: bs) l' := by
  rw [Reads, List.foldlM_cons, h]
  exact h'

theorem Reads.single {l l' : Lexer} {b : UInt8} (h : l.step b = some l') : l.Reads [b] l' :=
  .cons h rfl

theorem Reads.append {l m l' : Lexer} {bs cs : Bytes} (h : l.Reads bs m) (h' : m.Reads cs l') :
    l.Reads (bs ++ cs) l' := by
  rw [Reads] at h
  rw [Reads, List.foldlM_append, h]
  exact h'

/-! ## Strings -/

variable {us : Units} {done : List Token}

theorem numberedUnits_of_lt {n : Nat} (h : n < 0x80) : numberedUnits n = [.octet (.ofNat n)] := by
  have hchar : (Char.ofNat n).toNat = n := by
    decide +revert
  have hencode : Utf8.encodeChar (Char.ofNat n) = [.ofNat n] := by
    rw [Utf8.encodeChar, hchar]
    exact if_pos h
  rw [numberedUnits, if_neg (by omega), hencode]
  rfl

theorem step_numbered {due n d : Nat} (hd : d < 16) (hdue : 1 < due) :
    step ⟨.numbered us due n, done⟩ (Token.hexOctet d)
      = some ⟨.numbered us (due - 1) (16 * n + d), done⟩ := by
  simp only [step, Token.hexOctet, Hex.value?_digit hd]
  exact if_neg (by omega)

theorem step_numbered_last {n d : Nat} (hd : d < 16) :
    step ⟨.numbered us 1 n, done⟩ (Token.hexOctet d)
      = some ⟨.string (numberedUnits (16 * n + d) ++ us), done⟩ := by
  simp only [step, Token.hexOctet, Hex.value?_digit hd]
  rfl

/-- A control character is read back from its numbered escape. -/
theorem reads_control {b : UInt8} (h : b < 32) :
    Reads ⟨.string us, done⟩
      [92, 117, 48, 48, Token.hexOctet (b.toNat / 16), Token.hexOctet (b.toNat % 16)]
      ⟨.string (.octet b :: us), done⟩ := by
  have hb : b.toNat < 32 := h
  have hjoin : 16 * (b.toNat / 16) + b.toNat % 16 = b.toNat := by omega
  have hunits : numberedUnits (16 * (b.toNat / 16) + b.toNat % 16) = [.octet b] := by
    rw [hjoin, numberedUnits_of_lt (by omega), UInt8.ofNat_toNat]
  have hopen : Reads ⟨.string us, done⟩ [92, 117, 48, 48] ⟨.numbered us 2 0, done⟩ := rfl
  have hhigh : step ⟨.numbered us 2 0, done⟩ (Token.hexOctet (b.toNat / 16))
      = some ⟨.numbered us 1 (b.toNat / 16), done⟩ := by
    rw [step_numbered (by omega) (by decide)]
    simp
  have hlow : step ⟨.numbered us 1 (b.toNat / 16), done⟩ (Token.hexOctet (b.toNat % 16))
      = some ⟨.string (.octet b :: us), done⟩ := by
    rw [step_numbered_last (by omega), hunits]
    rfl
  exact hopen.append (.cons hhigh (.single hlow))

/-- **Every octet of a string is read back.** -/
theorem reads_octet (b : UInt8) :
    Reads ⟨.string us, done⟩ (Token.writeOctet b) ⟨.string (.octet b :: us), done⟩ := by
  unfold Token.writeOctet
  -- the octets that have an escape of their own
  split
  next h => subst h; rfl
  split
  next h => subst h; rfl
  split
  next h => subst h; rfl
  split
  next h => subst h; rfl
  split
  next h => subst h; rfl
  split
  next h => subst h; rfl
  split
  next h => subst h; rfl
  -- the other control characters, and what stands for itself
  split
  next h => exact reads_control h
  next hquote hslash _ _ _ _ _ hcontrol =>
    refine .single ?_
    simp only [step, if_neg hquote, if_neg hslash, if_neg hcontrol]

theorem reads_units {vs : Units} (h : ∀ u ∈ vs, ∃ b, u = .octet b) :
    Reads ⟨.string us, done⟩ (vs.flatMap Token.writeUnit) ⟨.string (vs.reverse ++ us), done⟩ := by
  induction vs generalizing us with
  | nil => rfl
  | cons u vs ih =>
      obtain ⟨b, rfl⟩ := h u List.mem_cons_self
      have hrest : Reads ⟨.string (.octet b :: us), done⟩ (vs.flatMap Token.writeUnit)
          ⟨.string (vs.reverse ++ .octet b :: us), done⟩ :=
        ih fun v hv => h v (List.mem_cons_of_mem _ hv)
      rw [List.flatMap_cons, List.reverse_cons, List.append_assoc]
      exact (reads_octet b).append hrest

/-! ## Numbers -/

/-- The spelling is read as one number, and could end there. -/
def IsNumeral (lexeme : Bytes) : Prop :=
  ∃ phase : NumberPhase, phase.isComplete = true ∧
    ∀ done, Reads ⟨.between, done⟩ lexeme ⟨.number phase lexeme.reverse, done⟩

theorem reads_digits {ds lexeme : Bytes} (h : ∀ d ∈ ds, Decimal.isDigit d = true) :
    Reads ⟨.number .whole lexeme, done⟩ ds ⟨.number .whole (ds.reverse ++ lexeme), done⟩ := by
  induction ds generalizing lexeme with
  | nil => rfl
  | cons d ds ih =>
      have hd := h d List.mem_cons_self
      have hstep : step ⟨.number .whole lexeme, done⟩ d = some ⟨.number .whole (d :: lexeme), done⟩ := by
        simp [step, NumberPhase.next?, hd]
      have hrest : Reads ⟨.number .whole (d :: lexeme), done⟩ ds
          ⟨.number .whole (ds.reverse ++ d :: lexeme), done⟩ :=
        ih fun e he => h e (List.mem_cons_of_mem _ he)
      rw [List.reverse_cons, List.append_assoc]
      exact .cons hstep hrest

/-- A digit that is no zero begins a number. -/
theorem stepBetween_digit {d : UInt8} (hd : Decimal.isDigit d = true) (hzero : d ≠ 48) :
    stepBetween done d = some ⟨.number .whole [d], done⟩ := by
  have hlow : 49 ≤ d.toNat ∧ d.toNat ≤ 57 := by
    have hne : d.toNat ≠ 48 := fun h => hzero (UInt8.toNat_inj.mp h)
    simp only [Decimal.isDigit, Bool.and_eq_true, decide_eq_true_eq] at hd
    omega
  -- what else may stand between tokens is no digit
  have hother {b : UInt8} (hb : b.toNat < 49 ∨ 57 < b.toNat) : d ≠ b := by
    rintro rfl
    omega
  have hblank : isBlank d = false := by
    simp [isBlank, hother (b := 32) (by decide), hother (b := 10) (by decide),
      hother (b := 13) (by decide), hother (b := 9) (by decide)]
  unfold stepBetween
  rw [hblank, if_neg (by decide), if_neg (hother (by decide)), if_neg (hother (by decide)),
    if_neg (hother (by decide)), if_neg (hother (by decide)), if_neg (hother (by decide)),
    if_neg (hother (by decide)), if_neg (hother (by decide)), if_neg (hother (by decide)),
    if_neg (hother (by decide)), if_neg (hother (by decide)), if_neg (hother (by decide)),
    if_neg hzero, if_pos hd]

/-- **The digits of a number are read as one number.** -/
theorem isNumeral_digits (n : Nat) : IsNumeral (Decimal.digits n) := by
  rcases Decimal.digits_eq_zero_or_cons n with h | ⟨d, ds, h, hzero⟩
  · rw [h]
    exact ⟨.zero, rfl, fun done => rfl⟩
  · have hdigit (e : UInt8) (he : e ∈ d :: ds) : Decimal.isDigit e = true :=
      Decimal.isDigit_of_mem_digits (h ▸ he)
    rw [h]
    refine ⟨.whole, rfl, fun done => ?_⟩
    rw [List.reverse_cons]
    exact .cons (stepBetween_digit (hdigit d List.mem_cons_self) hzero)
      (reads_digits fun e he => hdigit e (List.mem_cons_of_mem _ he))

/-- A sign may stand before the digits of a number. -/
theorem isNumeral_negative (n : Nat) : IsNumeral (45 :: Decimal.digits n) := by
  have hsign (done : List Token) : step ⟨.between, done⟩ 45 = some ⟨.number .sign [45], done⟩ := rfl
  rcases Decimal.digits_eq_zero_or_cons n with h | ⟨d, ds, h, hzero⟩
  · rw [h]
    exact ⟨.zero, rfl, fun done => rfl⟩
  · have hdigit (e : UInt8) (he : e ∈ d :: ds) : Decimal.isDigit e = true :=
      Decimal.isDigit_of_mem_digits (h ▸ he)
    rw [h]
    refine ⟨.whole, rfl, fun done => ?_⟩
    have hfirst : step ⟨.number .sign [45], done⟩ d = some ⟨.number .whole [d, 45], done⟩ := by
      simp [step, NumberPhase.next?, hzero, hdigit d List.mem_cons_self]
    rw [List.reverse_cons, List.reverse_cons, List.append_assoc]
    exact .cons (hsign done)
      (.cons hfirst (reads_digits fun e he => hdigit e (List.mem_cons_of_mem _ he)))

theorem isNumeral_integer (n : Int) : IsNumeral (Decimal.integer n) := by
  unfold Decimal.integer
  split
  · exact isNumeral_negative n.natAbs
  · exact isNumeral_digits n.natAbs

end Lexer

/-! ## Single tokens -/

/-- The token is written in one way only: a number is a numeral, a string holds octets. -/
def Token.IsClean : Token → Prop
  | .number lexeme => Lexer.IsNumeral lexeme
  | .string us => ∀ u ∈ us, ∃ b, u = .octet b
  | _ => True

/-- The token ends what stands before it. -/
def Token.isDelimiter : Token → Bool
  | .closeArray | .closeObject | .comma => true
  | _ => false

namespace Lexer

/-- The tokens that were read, last first, if the text could end here. -/
inductive Holds : Lexer → List Token → Prop
  | between (ts : List Token) : Holds ⟨.between, ts⟩ ts
  | number {phase : NumberPhase} (h : phase.isComplete = true) (lexeme : Bytes) (ts : List Token) :
      Holds ⟨.number phase lexeme, ts⟩ (.number lexeme.reverse :: ts)

theorem Holds.finish? {l : Lexer} {ts : List Token} (h : l.Holds ts) :
    l.finish? = some ts.reverse := by
  cases h with
  | between => rfl
  | number h => exact if_pos h

/-- **A clean token is read back**, from between tokens. -/
theorem reads_of_isClean {t : Token} (ht : t.IsClean) (done : List Token) :
    ∃ l, Reads ⟨.between, done⟩ t.write l ∧ l.Holds (t :: done) := by
  cases t with
  | number lexeme =>
      obtain ⟨phase, hphase, hreads⟩ := ht
      have hholds := Holds.number hphase lexeme.reverse done
      rw [List.reverse_reverse] at hholds
      exact ⟨_, hreads done, hholds⟩
  | string us =>
      refine ⟨⟨.between, .string us :: done⟩, ?_, .between _⟩
      have hunits : Reads ⟨.string [], done⟩ (us.flatMap Token.writeUnit)
          ⟨.string (us.reverse ++ []), done⟩ := reads_units ht
      have hclose : step ⟨.string (us.reverse ++ []), done⟩ 34
          = some ⟨.between, .string us :: done⟩ := by
        simp [step]
      exact .cons (m := ⟨.string [], done⟩) rfl (hunits.append (.single hclose))
  | bool b => cases b <;> exact ⟨_, rfl, .between _⟩
  | _ => exact ⟨_, rfl, .between _⟩

/-- **A delimiter is read back** wherever the text could end, and ends a number. -/
theorem Holds.reads_delimiter {l : Lexer} {done : List Token} (h : l.Holds done) {t : Token}
    (ht : t.isDelimiter = true) : l.Reads t.write ⟨.between, t :: done⟩ := by
  cases h with
  | between =>
      cases t with
      | closeArray | closeObject | comma => rfl
      | _ => cases ht
  | @number phase hphase lexeme ts =>
      cases t with
      | closeArray | closeObject | comma =>
          cases phase with
          | zero | whole | fraction | exponent => rfl
          | _ => cases hphase
      | _ => cases ht

end Lexer
end ControlPlane.Json
