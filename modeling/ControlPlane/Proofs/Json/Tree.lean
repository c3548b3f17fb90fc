import ControlPlane.Json.Tree
import ControlPlane.Proofs.Json.Token

/-!
# Trees are read back

The text of a tree is read back as that tree (`Tree.ofText?_write`), if its tokens are clean. The
lexer gives the tokens of the tree (`Tree.tokens?_write`), and the reader, whose stack is of no
account to the tokens of one value, gives the tree of the tokens (`Tree.ofTokens?_tokens`).
-/

set_option autoImplicit false

namespace ControlPlane.Json

namespace Lexer

/-- From a state that holds some tokens, the text of further tokens leads to one that holds them
too. -/
def Takes (done ts : List Token) : Prop :=
  ∀ l : Lexer, l.Holds done →
    ∃ l', l.Reads (ts.flatMap Token.write) l' ∧ l'.Holds (ts.reverse ++ done)

/-- The same from between tokens only. -/
def Starts (done ts : List Token) : Prop :=
  ∃ l', Reads ⟨.between, done⟩ (ts.flatMap Token.write) l' ∧ l'.Holds (ts.reverse ++ done)

theorem Takes.starts {done ts : List Token} (h : Takes done ts) : Starts done ts :=
  h _ (.between done)

theorem Starts.append {done ts us : List Token} (h : Starts done ts)
    (h' : Takes (ts.reverse ++ done) us) : Starts done (ts ++ us) := by
  obtain ⟨m, hreads, hholds⟩ := h
  obtain ⟨l', hreads', hholds'⟩ := h' m hholds
  refine ⟨l', ?_, ?_⟩
  · rw [List.flatMap_append]
    exact hreads.append hreads'
  · rwa [List.reverse_append, List.append_assoc]

/-- A token that leaves the lexer between tokens. -/
theorem Starts.cons {done ts : List Token} {t : Token}
    (h : Reads ⟨.between, done⟩ t.write ⟨.between, t :: done⟩) (h' : Starts (t :: done) ts) :
    Starts done (t :: ts) := by
  obtain ⟨l', hreads, hholds⟩ := h'
  refine ⟨l', h.append hreads, ?_⟩
  rwa [List.reverse_cons, List.append_assoc]

theorem takes_delimiter {done ts : List Token} {t : Token} (ht : t.isDelimiter = true)
    (h : Starts (t :: done) ts) : Takes done (t :: ts) := by
  intro l hl
  obtain ⟨l', hreads, hholds⟩ := h
  refine ⟨l', (hl.reads_delimiter ht).append hreads, ?_⟩
  rwa [List.reverse_cons, List.append_assoc]

theorem starts_nil (done : List Token) : Starts done [] := ⟨_, rfl, .between done⟩

theorem takes_singleton {done : List Token} {t : Token} (ht : t.isDelimiter = true) :
    Takes done [t] := takes_delimiter ht (starts_nil _)

theorem starts_singleton {done : List Token} {t : Token} (ht : t.IsClean) : Starts done [t] := by
  obtain ⟨l, hreads, hholds⟩ := reads_of_isClean ht done
  refine ⟨l, ?_, hholds⟩
  rwa [List.flatMap_singleton]

end Lexer

namespace Tree

open Lexer

/-! ## Tokens -/

/-- The tree is written in one way only. -/
def IsClean (t : Tree) : Prop := ∀ tok ∈ t.tokens, tok.IsClean

/-- The name of a member, and the colon after it. -/
theorem starts_name {done ts : List Token} {k : Units} (hk : (Token.string k).IsClean)
    (h : Starts (.colon :: .string k :: done) ts) : Starts done (.string k :: .colon :: ts) := by
  have hname : Reads ⟨.between, done⟩ (Token.string k).write ⟨.between, .string k :: done⟩ := by
    obtain ⟨l, hreads, hholds⟩ := reads_of_isClean hk done
    cases hholds with
    | between => exact hreads
  exact .cons hname (.cons rfl h)

mutual

theorem starts_tokens (t : Tree) (done : List Token) (h : ∀ tok ∈ t.tokens, tok.IsClean) :
    Starts done t.tokens := by
  cases t with
  | null => exact starts_singleton trivial
  | bool b => exact starts_singleton trivial
  | number lexeme => exact starts_singleton (h _ List.mem_cons_self)
  | string us => exact starts_singleton (h _ List.mem_cons_self)
  | array items =>
      -- the bracket leaves the lexer between tokens
      rw [tokens, List.forall_mem_cons] at h
      exact .cons rfl (starts_itemTokens items _ h.2)
  | object members =>
      rw [tokens, List.forall_mem_cons] at h
      exact .cons rfl (starts_memberTokens members _ h.2)

theorem starts_itemTokens (ts : List Tree) (done : List Token)
    (h : ∀ tok ∈ itemTokens ts, tok.IsClean) : Starts done (itemTokens ts) := by
  cases ts with
  | nil => exact (takes_singleton rfl).starts
  | cons t ts =>
      rw [itemTokens, List.forall_mem_append] at h
      obtain ⟨ht, hts⟩ := h
      exact (starts_tokens t done ht).append (takes_moreItemTokens ts _ hts)

theorem takes_moreItemTokens (ts : List Tree) (done : List Token)
    (h : ∀ tok ∈ moreItemTokens ts, tok.IsClean) : Takes done (moreItemTokens ts) := by
  cases ts with
  | nil => exact takes_singleton rfl
  | cons t ts =>
      -- the comma may end a number, and what follows it starts afresh
      rw [moreItemTokens, List.forall_mem_cons, List.forall_mem_append] at h
      obtain ⟨-, ht, hts⟩ := h
      exact takes_delimiter rfl ((starts_tokens t _ ht).append (takes_moreItemTokens ts _ hts))

theorem starts_memberTokens (ms : List (Units × Tree)) (done : List Token)
    (h : ∀ tok ∈ memberTokens ms, tok.IsClean) : Starts done (memberTokens ms) := by
  cases ms with
  | nil => exact (takes_singleton rfl).starts
  | cons m ms =>
      obtain ⟨k, t⟩ := m
      rw [memberTokens, List.forall_mem_cons, List.forall_mem_cons, List.forall_mem_append] at h
      obtain ⟨hk, -, ht, hms⟩ := h
      exact starts_name hk ((starts_tokens t _ ht).append (takes_moreMemberTokens ms _ hms))

theorem takes_moreMemberTokens (ms : List (Units × Tree)) (done : List Token)
    (h : ∀ tok ∈ moreMemberTokens ms, tok.IsClean) : Takes done (moreMemberTokens ms) := by
  cases ms with
  | nil => exact takes_singleton rfl
  | cons m ms =>
      obtain ⟨k, t⟩ := m
      rw [moreMemberTokens, List.forall_mem_cons, List.forall_mem_cons, List.forall_mem_cons,
        List.forall_mem_append] at h
      obtain ⟨-, hk, -, ht, hms⟩ := h
      exact takes_delimiter rfl
        (starts_name hk ((starts_tokens t _ ht).append (takes_moreMemberTokens ms _ hms)))

end

/-- **The lexer gives the tokens of a tree.** -/
theorem tokens?_write {t : Tree} (h : t.IsClean) : tokens? t.write = some t.tokens := by
  obtain ⟨l, hreads, hholds⟩ := starts_tokens t [] h
  have hreads : (t.tokens.flatMap Token.write).foldlM step start = some l := hreads
  rw [tokens?, write, hreads]
  show l.finish? = some t.tokens
  rw [hholds.finish?, List.append_nil, List.reverse_reverse]

/-! ## The tree of the tokens -/

/-- A value does not begin with the end of an array, so it may be the first item of one. -/
theorem foldlM_items (t : Tree) (stack : List Frame) (rest : List Token) :
    (t.tokens ++ rest).foldlM Reader.step (.items stack)
      = (t.tokens ++ rest).foldlM Reader.step (.value (.array [] :: stack)) := by
  cases t <;> rfl

mutual

/-- The tokens of a value are read as that value, whatever is open around it. -/
theorem foldlM_tokens (t : Tree) (stack : List Frame) (rest : List Token) :
    (t.tokens ++ rest).foldlM Reader.step (.value stack)
      = rest.foldlM Reader.step (.ended t stack) := by
  cases t with
  | array items => exact foldlM_itemTokens items stack rest
  | object members => exact foldlM_memberTokens members stack rest
  | _ => rfl

theorem foldlM_itemTokens (ts : List Tree) (stack : List Frame) (rest : List Token) :
    (itemTokens ts ++ rest).foldlM Reader.step (.items stack)
      = rest.foldlM Reader.step (.ended (.array ts) stack) := by
  cases ts with
  | nil => rfl
  | cons t ts =>
      rw [itemTokens, List.append_assoc, foldlM_items, foldlM_tokens, foldlM_moreItemTokens]
      rfl

/-- The items that were read already are kept last first. -/
theorem foldlM_moreItemTokens (ts : List Tree) (v : Tree) (vs : List Tree) (stack : List Frame)
    (rest : List Token) :
    (moreItemTokens ts ++ rest).foldlM Reader.step (.ended v (.array vs :: stack))
      = rest.foldlM Reader.step (.ended (.array ((v :: vs).reverse ++ ts)) stack) := by
  cases ts with
  | nil =>
      rw [List.append_nil]
      rfl
  | cons t ts =>
      -- the comma puts the value that has ended among the items
      show ((t.tokens ++ moreItemTokens ts) ++ rest).foldlM Reader.step
        (.value (.array (v :: vs) :: stack)) = _
      rw [List.append_assoc, foldlM_tokens, foldlM_moreItemTokens, List.reverse_cons,
        List.append_assoc]
      rfl

theorem foldlM_memberTokens (ms : List (Units × Tree)) (stack : List Frame) (rest : List Token) :
    (memberTokens ms ++ rest).foldlM Reader.step (.members stack)
      = rest.foldlM Reader.step (.ended (.object ms) stack) := by
  cases ms with
  | nil => rfl
  | cons m ms =>
      obtain ⟨k, t⟩ := m
      show ((t.tokens ++ moreMemberTokens ms) ++ rest).foldlM Reader.step
        (.value (.object [] k :: stack)) = _
      rw [List.append_assoc, foldlM_tokens, foldlM_moreMemberTokens]
      rfl

theorem foldlM_moreMemberTokens (ms : List (Units × Tree)) (k : Units) (v : Tree)
    (vs : List (Units × Tree)) (stack : List Frame) (rest : List Token) :
    (moreMemberTokens ms ++ rest).foldlM Reader.step (.ended v (.object vs k :: stack))
      = rest.foldlM Reader.step (.ended (.object (((k, v) :: vs).reverse ++ ms)) stack) := by
  cases ms with
  | nil =>
      rw [List.append_nil]
      rfl
  | cons m ms =>
      obtain ⟨l, t⟩ := m
      show ((t.tokens ++ moreMemberTokens ms) ++ rest).foldlM Reader.step
        (.value (.object ((k, v) :: vs) l :: stack)) = _
      rw [List.append_assoc, foldlM_tokens, foldlM_moreMemberTokens, List.reverse_cons,
        List.append_assoc]
      rfl

end

theorem ofTokens?_tokens (t : Tree) : ofTokens? t.tokens = some t := by
  have h := foldlM_tokens t [] []
  rw [List.append_nil] at h
  rw [ofTokens?, h]
  rfl

/-- **A tree is read back from its text.** -/
theorem ofText?_write {t : Tree} (h : t.IsClean) : ofText? t.write = some t := by
  rw [ofText?, tokens?_write h]
  exact ofTokens?_tokens t

end Tree
end ControlPlane.Json
