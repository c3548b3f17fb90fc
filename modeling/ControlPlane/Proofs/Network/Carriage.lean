import ControlPlane.Proofs.Network.Bridge

/-!
# What is under way at a bridge

Of what is under way to the handler of a stream the inbox has the oldest part, then the reader, then
the socket (`Bridge.Streams`); a reader that has ended leaves what is in the inbox, and after that
the end (`Bridge.Drains`). Of what was sent to the client the socket has the oldest part, then the
sink (`Bridge.Delivers`). Each is kept by every move at the bridge and by whatever happens
elsewhere.

Main statement: `Bridge.IsFresh.carries_of_course`.
-/

set_option autoImplicit false

namespace ControlPlane.Bridge

/-! ## Logs -/

namespace Event

@[simp] def item? : Event → Option SocketItem
  | came item => some item
  | _ => none

@[simp] def got? : Event → Option (Option Arrival)
  | got arrival? => some arrival?
  | _ => none

@[simp] def sent? : Event → Option StreamMessage
  | sent m => some m
  | _ => none

/-- A frame that was written; answers to pings are a matter of the socket. -/
@[simp] def frame? : Event → Option Frame
  | wrote (.pong _) => none
  | wrote f => some f
  | _ => none

@[simp] def isRead : Event → Bool
  | read => true
  | _ => false

end Event

/-- What came out of the socket. -/
def items (log : List Event) : List SocketItem := log.filterMap Event.item?

/-- What the handler got. -/
def gotten (log : List Event) : List (Option Arrival) := log.filterMap Event.got?

/-- What the sink took. -/
def sends (log : List Event) : List StreamMessage := log.filterMap Event.sent?

/-- What was written to the socket. -/
def frames (log : List Event) : List Frame := log.filterMap Event.frame?

/-- How many steps the reader took. -/
def reads (log : List Event) : Nat := log.countP Event.isRead

/-- Nothing that came later would be read. -/
def IsOver (log : List Event) : Prop := (items log).any isLast = true ∨ .finished ∈ log

section Logs

variable (e : Event) (log es : List Event)

@[simp] theorem items_nil : items [] = [] := rfl
@[simp] theorem gotten_nil : gotten [] = [] := rfl
@[simp] theorem sends_nil : sends [] = [] := rfl
@[simp] theorem frames_nil : frames [] = [] := rfl
@[simp] theorem reads_nil : reads [] = 0 := rfl

@[simp] theorem items_cons : items (e :: es) = e.item?.toList ++ items es := by
  cases e <;> rfl

@[simp] theorem gotten_cons : gotten (e :: es) = e.got?.toList ++ gotten es := by
  cases e <;> rfl

@[simp] theorem sends_cons : sends (e :: es) = e.sent?.toList ++ sends es := by
  cases e <;> rfl

@[simp] theorem frames_cons : frames (e :: es) = e.frame?.toList ++ frames es := by
  cases e with
  | wrote f => cases f <;> rfl
  | _ => rfl

@[simp] theorem reads_cons : reads (e :: es) = reads es + if e.isRead then 1 else 0 :=
  List.countP_cons

@[simp] theorem items_append : items (log ++ es) = items log ++ items es :=
  List.filterMap_append

@[simp] theorem gotten_append : gotten (log ++ es) = gotten log ++ gotten es :=
  List.filterMap_append

@[simp] theorem sends_append : sends (log ++ es) = sends log ++ sends es :=
  List.filterMap_append

@[simp] theorem frames_append : frames (log ++ es) = frames log ++ frames es :=
  List.filterMap_append

@[simp] theorem reads_append : reads (log ++ es) = reads log + reads es := List.countP_append

end Logs

variable {b : Bridge} {limit taken : Nat} {came : List SocketItem} {got : List (Option Arrival)}
  {sent : List StreamMessage} {wrote : List Frame} {n n' n₀ : Network} {x y x' y' : Actor}
  {z z' : Inbox} {c d : Channel StreamMessage} {s s' : Socket} {held : Option Arrival}

/-! ## The way in -/

/-- What is under way to the handler and not in its inbox: what the reader holds and what it will
read after that. -/
def remaining (limit : Nat) (inbound : List SocketItem) : Option Arrival → List Arrival
  | none => heard limit inbound
  | some (.ok m) => .ok m :: heard limit inbound
  | some (.error e) => [.error e]

/-- The end is among what the reader holds and what it will read. -/
def isClosing (inbound : List SocketItem) : Option Arrival → Bool
  | some (.error _) => true
  | _ => inbound.any isLast

theorem remaining_concat (limit : Nat) (inbound : List SocketItem) (held : Option Arrival)
    (item : SocketItem) : remaining limit (inbound ++ [item]) held
      = remaining limit inbound held
        ++ if isClosing inbound held then [] else heard limit [item] := by
  cases held with
  | none => exact heard_append limit inbound [item]
  | some a =>
      cases a with
      | ok m => exact congrArg (Except.ok m :: ·) (heard_append limit inbound [item])
      | error e => rfl

theorem isClosing_concat (inbound : List SocketItem) (held : Option Arrival) (item : SocketItem) :
    isClosing (inbound ++ [item]) held = (isClosing inbound held || isLast item) := by
  cases held with
  | none => simp [isClosing]
  | some a => cases a <;> simp [isClosing]

/-- How many steps the reader has to take for what it holds, and for its end. -/
def steps (b : Bridge) (c : Channel Arrival) : Option Arrival → Nat
  | none => 1
  | some _ => if b.reader ∈ c.places then 2 else 3

theorem steps_some (b : Bridge) (c : Channel Arrival) (a : Arrival) :
    2 ≤ b.steps c (some a) ∧ b.steps c (some a) ≤ 3 := by
  simp only [steps]
  split <;> decide

/-- The reader reads: what the handler got, what is in its inbox and what remains is all that is to
be heard. -/
structure Streams (b : Bridge) (limit : Nat) (came : List SocketItem)
    (got : List (Option Arrival)) (taken : Nat) (held : Option Arrival) (z : Inbox)
    (s : Socket) : Prop where
  hasSender : z.hasSender = true
  isOpen : z.channel.isOpen = true
  attended : z.channel.IsAttended (fun t => t = b.reader ∧ held ≠ none) True
  carried : got ++ (z.channel.queue ++ remaining limit s.inbound held).map some
    = (heard limit came).map some
  closing : came.any isLast = isClosing s.inbound held
  bounded : taken + 3 * s.inbound.length + b.steps z.channel held ≤ 3 * came.length + 1

/-- The reader has ended: what the handler got and what is in its inbox is all that is to be heard,
and the end, which it finds when the inbox is empty. -/
structure Drains (limit : Nat) (came : List SocketItem) (got : List (Option Arrival))
    (taken k : Nat) (z : Inbox) (s : Socket) : Prop where
  hasSender : z.hasSender = false
  isOver : came.any isLast = true ∨ s.isEnded = true
  carried : got ++ z.channel.queue.map some
    = (heard limit came).map some ++ List.replicate k none
  drained : k ≠ 0 → z.channel.queue = []
  bounded : taken ≤ 3 * came.length + 1

/-- **The way in.** -/
inductive Inward (b : Bridge) (limit : Nat) (came : List SocketItem) (got : List (Option Arrival))
    (taken : Nat) : Actor → Inbox → Socket → Prop
  | reading {held : Option Arrival} {z : Inbox} {s : Socket}
      (h : b.Streams limit came got taken held z s) :
      Inward b limit came got taken (.reader b.socket b.inbox held) z s
  | draining {k : Nat} {z : Inbox} {s : Socket} (h : Drains limit came got taken k z s) :
      Inward b limit came got taken (.ended .ok) z s

/-! ### An item comes -/

theorem Streams.come (h : b.Streams limit came got taken held z s) (item : SocketItem) :
    b.Streams limit (came ++ [item]) got taken held z
      { s with inbound := s.inbound ++ [item] } :=
  { h with
    carried := by
      rw [heard_append, h.closing]
      calc got ++ (z.channel.queue ++ remaining limit (s.inbound ++ [item]) held).map some
          = (got ++ (z.channel.queue ++ remaining limit s.inbound held).map some)
              ++ (if isClosing s.inbound held then [] else heard limit [item]).map some := by
            rw [remaining_concat]
            simp only [List.map_append, List.append_assoc]
        _ = (heard limit came
              ++ if isClosing s.inbound held then [] else heard limit [item]).map some := by
            rw [h.carried, List.map_append]
    closing := by
      rw [List.any_append, h.closing, isClosing_concat, List.any_cons, List.any_nil, Bool.or_false]
    bounded := by
      have hbounded := h.bounded
      simp only [List.length_append, List.length_singleton]
      omega }

theorem Drains.come {k : Nat} (h : Drains limit came got taken k z s) (hopen : s.isEnded = false)
    (item : SocketItem) :
    Drains limit (came ++ [item]) got taken k z { s with inbound := s.inbound ++ [item] } := by
  -- the socket goes on, so it was an item that was the end
  have hlast : came.any isLast = true := by
    rcases h.isOver with hlast | hended
    · exact hlast
    · rw [hopen] at hended
      cases hended
  have hbounded := h.bounded
  refine { h with isOver := .inl ?_, carried := ?_, bounded := ?_ }
  · rw [List.any_append, hlast, Bool.true_or]
  · rw [heard_append, if_pos hlast, List.append_nil]
    exact h.carried
  · rw [List.length_append, List.length_singleton]
    omega

theorem Inward.come (h : b.Inward limit came got taken x z s) (hopen : s.isEnded = false)
    (item : SocketItem) :
    b.Inward limit (came ++ [item]) got taken x z
      { s with inbound := s.inbound ++ [item] } := by
  cases h with
  | reading h => exact .reading (h.come item)
  | draining h => exact .draining (h.come hopen item)

/-- What is not read of a socket does not matter to the way in. -/
theorem Inward.keep (h : b.Inward limit came got taken x z s) (hinbound : s'.inbound = s.inbound)
    (hended : s.isEnded = true → s'.isEnded = true) : b.Inward limit came got taken x z s' := by
  cases h with
  | reading h =>
      refine .reading { h with carried := ?_, closing := ?_, bounded := ?_ } <;> rw [hinbound]
      exacts [h.carried, h.closing, h.bounded]
  | draining h => exact .draining { h with isOver := h.isOver.imp_right hended }

/-! ### The reader takes a step -/

namespace Streams

/-- An item that is not handed on. -/
theorem skip {item : SocketItem} {rest : List SocketItem}
    (h : b.Streams limit came got taken none z s) (hinbound : s.inbound = item :: rest)
    (hnone : (Reading.of limit item).arrival? = none)
    (hlast : (Reading.of limit item).isLast = false) (hrest : s'.inbound = rest) :
    b.Streams limit came got (taken + 1) none z s' := by
  rw [Reading.isLast_of] at hlast
  have hheard : heard limit (item :: rest) = heard limit rest := by
    rw [heard_cons, hnone, hlast]
    rfl
  have hbounded := h.bounded
  refine { h with carried := ?_, closing := ?_, bounded := ?_ }
  · rw [← h.carried, hinbound, hrest, remaining, remaining, hheard]
  · rw [h.closing, hinbound, hrest]
    simp [isClosing, hlast]
  · rw [hinbound, List.length_cons] at hbounded
    rw [hrest]
    omega

/-- The reader takes what it is to hand on. -/
theorem take {item : SocketItem} {rest : List SocketItem} {a : Arrival}
    (h : b.Streams limit came got taken none z s) (hinbound : s.inbound = item :: rest)
    (hitem : Reading.of limit item = .arrival a) :
    b.Streams limit came got (taken + 1) (some a) z { s with inbound := rest } := by
  have hlast : isLast item = (Reading.arrival a).isLast := by
    rw [← Reading.isLast_of limit, hitem]
  have hremaining : remaining limit rest (some a) = heard limit (item :: rest) := by
    rw [heard_cons, hitem, hlast]
    cases a <;> rfl
  have hclosing : isClosing rest (some a) = (item :: rest).any isLast := by
    rw [List.any_cons, hlast]
    cases a <;> rfl
  have hbounded := h.bounded
  refine { h with
    attended := h.attended.mono (fun t _ ht => ⟨ht.1, nofun⟩) fun _ => id
    carried := ?_, closing := ?_, bounded := ?_ }
  · rw [← h.carried, hinbound, hremaining]
    rfl
  · rw [h.closing, hinbound, hclosing]
    rfl
  · have hone : b.steps z.channel none = 1 := rfl
    have hthree := (b.steps_some z.channel a).2
    rw [hinbound, List.length_cons] at hbounded
    show taken + 1 + 3 * rest.length + b.steps z.channel (some a) ≤ _
    omega

/-- The reader goes to the end of the line. -/
theorem wait {a : Arrival} {d : Channel Arrival}
    (h : b.Streams limit came got taken (some a) z s)
    (hwrite : z.channel.write? b.reader a = some (.queued, d)) :
    b.Streams limit came got (taken + 1) (some a) { z with channel := d } s := by
  obtain ⟨hout, hin⟩ := Channel.places_of_queued hwrite
  have hqueue : d.queue = z.channel.queue := by
    rw [Channel.queue_of_write? hwrite, if_neg (by decide)]
  have hbounded := h.bounded
  refine { h with
    isOpen := (Channel.isOpen_of_write? hwrite).trans h.isOpen
    attended := h.attended.write? ⟨rfl, nofun⟩ hwrite
    carried := hqueue ▸ h.carried
    bounded := ?_ }
  have hbefore : b.steps z.channel (some a) = 3 := if_neg hout
  have hafter : b.steps d (some a) = 2 := if_pos hin
  show taken + 1 + 3 * s.inbound.length + b.steps d (some a) ≤ _
  omega

/-- What was held is in the inbox. -/
theorem queue_of_handed {a : Arrival} {w : Channel.Write} {d : Channel Arrival}
    (h : b.Streams limit came got taken (some a) z s)
    (hwrite : z.channel.write? b.reader a = some (w, d)) (hw : w ≠ .queued) :
    d.queue = z.channel.queue ++ [a] :=
  (Channel.queue_of_isOpen h.isOpen hwrite hw).2

theorem hand {m : StreamMessage} {w : Channel.Write} {d : Channel Arrival}
    (h : b.Streams limit came got taken (some (.ok m)) z s)
    (hwrite : z.channel.write? b.reader (.ok m) = some (w, d)) (hw : w ≠ .queued) :
    b.Streams limit came got (taken + 1) none { z with channel := d } s := by
  have hgone := Channel.not_mem_places_of_write? h.attended.distinct hwrite hw
  have hbounded := h.bounded
  refine { h with
    isOpen := (Channel.isOpen_of_write? hwrite).trans h.isOpen
    attended := ?_, carried := ?_, bounded := ?_ }
  · exact (h.attended.write? ⟨rfl, nofun⟩ hwrite).mono
      (fun t ht htr => absurd (htr.1 ▸ ht) hgone) fun _ => id
  · rw [← h.carried, h.queue_of_handed hwrite hw, List.append_assoc]
    rfl
  · have hbefore := (b.steps_some z.channel (.ok m)).1
    show taken + 1 + 3 * s.inbound.length + 1 ≤ _
    omega

/-- The reader ends, and what remains is in the inbox. -/
theorem finish (h : b.Streams limit came got taken held z s) (hsender : z'.hasSender = false)
    (hover : came.any isLast = true ∨ s'.isEnded = true)
    (hqueue : z'.channel.queue = z.channel.queue ++ remaining limit s.inbound held) :
    Drains limit came got (taken + 1) 0 z' s' where
  hasSender := hsender
  isOver := hover
  carried := by rw [hqueue, h.carried, List.replicate_zero, List.append_nil]
  drained h := absurd rfl h
  bounded := by
    have hbounded := h.bounded
    have hsteps : 1 ≤ b.steps z.channel held := by
      cases held with
      | none => exact Nat.le_refl 1
      | some a => exact Nat.le_of_succ_le (b.steps_some z.channel a).1
    omega

theorem read (h : b.Streams limit came got taken held z s)
    (hstep : b.Reads limit z s held x' z' s') : b.Inward limit came got (taken + 1) x' z' s' := by
  cases hstep with
  | finish hinbound hended =>
      refine .draining (h.finish rfl (.inr hended) ?_)
      rw [hinbound]
      exact (List.append_nil _).symm
  | skip hinbound hitem =>
      exact .reading (h.skip hinbound (hitem ▸ rfl) (hitem ▸ rfl) rfl)
  | ping hinbound hitem =>
      exact .reading (h.skip hinbound (hitem ▸ rfl) (hitem ▸ rfl) rfl)
  | take hinbound hitem => exact .reading (h.take hinbound hitem)
  | @stop item rest hinbound hitem =>
      have hlast : isLast item = true := by
        rw [← Reading.isLast_of limit, hitem]
        rfl
      refine .draining (h.finish rfl (.inl ?_) ?_)
      · rw [h.closing, hinbound, isClosing, List.any_cons, hlast, Bool.true_or]
        nofun
      · rw [hinbound, remaining, heard_cons, hitem, hlast]
        exact (List.append_nil _).symm
  | wait hwrite => exact .reading (h.wait hwrite)
  | hand hwrite hw => exact .reading (h.hand hwrite hw)
  | fail hwrite hw =>
      exact .draining (h.finish rfl (.inl h.closing) (h.queue_of_handed hwrite hw))

end Streams

/-! ### The handler receives -/

theorem Streams.receive {a : Arrival} {d : Channel Arrival}
    (h : b.Streams limit came got taken held z s) (htake : z.channel.take? = some (a, d)) :
    b.Streams limit came (got ++ [some a]) taken held { z with channel := d } s where
  hasSender := h.hasSender
  isOpen := (Channel.isOpen_of_take? htake).trans h.isOpen
  attended := h.attended.take? htake
  carried := by
    rw [← h.carried, Channel.queue_of_take? htake]
    simp
  closing := h.closing
  bounded := by
    have hsteps : b.steps d held = b.steps z.channel held := by
      unfold steps
      rw [Channel.places_of_take? htake]
    exact hsteps ▸ h.bounded

theorem Drains.receive {k : Nat} {a : Arrival} {d : Channel Arrival}
    (h : Drains limit came got taken k z s) (htake : z.channel.take? = some (a, d)) :
    Drains limit came (got ++ [some a]) taken 0 { z with channel := d } s := by
  have hqueue := Channel.queue_of_take? htake
  -- the end is not found before the inbox is empty
  obtain rfl : k = 0 := by
    by_contra hk
    rw [h.drained hk] at hqueue
    cases hqueue
  refine { h with carried := ?_, drained := fun hk => absurd rfl hk }
  rw [← h.carried, hqueue]
  simp

theorem Drains.eof {k : Nat} (h : Drains limit came got taken k z s)
    (hempty : z.channel.queue = []) :
    Drains limit came (got ++ [none]) taken (k + 1) z s := by
  refine { h with carried := ?_, drained := fun _ => hempty }
  have hcarried := h.carried
  rw [hempty, List.map_nil, List.append_nil] at hcarried ⊢
  rw [hcarried, List.append_assoc, ← List.replicate_succ']

theorem Inward.receive {arrival? : Option Arrival} (h : b.Inward limit came got taken x z s)
    (hreceive : z.receive? = some (arrival?, z')) :
    b.Inward limit came (got ++ [arrival?]) taken x z' s := by
  obtain ⟨a, d, htake, rfl, rfl⟩ | ⟨hempty, hsender, rfl, rfl⟩ := Inbox.receive?_cases hreceive
  · cases h with
    | reading h => exact .reading (h.receive htake)
    | draining h => exact .draining (h.receive htake)
  · cases h with
    | reading h =>
        rw [h.hasSender] at hsender
        cases hsender
    | draining h => exact .draining (h.eof hempty)

/-! ## The way out -/

/-- What was written and what is in the sink is all that was sent, and a writer that has ended has
written that it ends. -/
inductive Delivers (b : Bridge) (sent : List StreamMessage) (wrote : List Frame) :
    Actor → Channel StreamMessage → Prop
  | writing {c : Channel StreamMessage}
      (h : wrote ++ c.queue.map .ofMessage = sent.map .ofMessage) :
      Delivers b sent wrote (.writer b.socket b.sink b.reader) c
  | done {c : Channel StreamMessage} (hclosed : c.isOpen = false)
      (h : wrote = sent.map .ofMessage ++ [.close]) : Delivers b sent wrote (.ended .ok) c

/-- **The way out**, as long as the client takes frames and the reader reads. -/
def Outward (b : Bridge) (sent : List StreamMessage) (wrote : List Frame) (x y : Actor)
    (c : Channel StreamMessage) (s : Socket) : Prop :=
  s.isWritable = true → x.ending? = none → b.Delivers sent wrote y c

/-- Somebody writes to the sink. -/
theorem Delivers.send {t : ActorId} {m : StreamMessage} {w : Channel.Write}
    (h : b.Delivers sent wrote y c) (hwrite : c.write? t m = some (w, d)) :
    b.Delivers (if w = .written then sent ++ [m] else sent) wrote y d := by
  have hqueue := Channel.queue_of_write? hwrite
  cases h with
  | writing h =>
      refine .writing ?_
      by_cases hw : w = .written
      · rw [if_pos hw] at hqueue ⊢
        rw [hqueue, List.map_append, ← List.append_assoc, h, List.map_append]
      · rw [if_neg hw] at hqueue ⊢
        rwa [hqueue]
  | done hclosed h =>
      -- nobody takes the message
      have hw : w ≠ .written := by
        rintro rfl
        simp [Channel.write?, hclosed] at hwrite
      rw [if_neg hw]
      exact .done ((Channel.isOpen_of_write? hwrite).trans hclosed) h

/-- The writer takes a step. -/
theorem Delivers.write (h : b.Delivers sent wrote (.writer b.socket b.sink b.reader) c)
    (hstep : b.Writes n c s y' d s') (hwritable : s.isWritable = true)
    (hreading : (n.ending? b.reader).isSome = false) :
    b.Delivers sent
      (wrote ++ frames ((s'.outbound.drop s.outbound.length).map .wrote)) y' d := by
  cases h with
  | writing h =>
  cases hstep with
  | @write m d htake _ =>
      have hframes : frames (((s.write (.ofMessage m)).outbound.drop s.outbound.length).map .wrote)
          = [.ofMessage m] := by
        simp [Socket.write, frames, Event.frame?, Frame.ofMessage]
      rw [Channel.queue_of_take? htake, List.map_cons] at h
      refine .writing ?_
      rw [hframes, List.append_assoc]
      exact h
  | fail htake hfail =>
      rw [hwritable] at hfail
      cases hfail
  | quit hquit =>
      rw [hreading] at hquit
      cases hquit
  | close htake _ =>
      have hframes : frames (((s.write .close).outbound.drop s.outbound.length).map .wrote)
          = [.close] := by
        simp [Socket.write, frames, Event.frame?]
      rw [Channel.take?_eq_none_iff.mp htake, List.map_nil, List.append_nil] at h
      exact .done rfl (by rw [hframes, h])

/-! ## Both ways -/

/-- Both ways, and what the parts of the bridge are. -/
structure Carries (b : Bridge) (limit : Nat) (log : List Event) (n : Network) (x y : Actor)
    (z : Inbox) (c : Channel StreamMessage) (s : Socket) : Prop extends b.Has n x y z c s where
  frameLimit : n.frameLimit = limit
  writing : y = .writer b.socket b.sink b.reader ∨ y = .ended .ok
  inward : b.Inward limit (items log) (gotten log) (reads log) x z s
  outward : b.Outward (sends log) (frames log) x y c s
  finished : s.isEnded = true ↔ .finished ∈ log

/-- The frames that were written say nothing about the way in. -/
theorem seen_wrote (fs : List Frame) :
    items (fs.map .wrote) = [] ∧ gotten (fs.map .wrote) = [] ∧ sends (fs.map .wrote) = [] ∧
      reads (fs.map .wrote) = 0 ∧ .finished ∉ fs.map Event.wrote := by
  simp [items, gotten, sends, reads]

theorem frames_pongs (ps : List Bytes) : frames ((ps.map Frame.pong).map .wrote) = [] := by
  simp [frames]

/-- What the reader does to the socket besides reading: it answers pings. -/
theorem Reads.socket (h : b.Reads limit z s held x' z' s') :
    s'.isEnded = s.isEnded ∧ s'.isWritable = s.isWritable ∧
      ∃ ps : List Bytes, s'.outbound = s.outbound ++ ps.map .pong := by
  cases h with
  | ping hinbound hitem => exact ⟨rfl, rfl, [_], rfl⟩
  | _ => exact ⟨rfl, rfl, [], (List.append_nil _).symm⟩

/-- What the writer does to the socket: it writes. -/
theorem Writes.socket (h : b.Writes n c s y' d s') :
    s'.inbound = s.inbound ∧ s'.isEnded = s.isEnded ∧ s'.isWritable = s.isWritable := by
  cases h <;> exact ⟨rfl, rfl, rfl⟩

theorem IsFresh.ne (h : b.IsFresh n) : b.reader ≠ b.writer := by
  intro heq
  have hreader := h.reader
  rw [heq, h.writer] at hreader
  cases hreader

theorem IsFresh.carries (h : b.IsFresh n) :
    ∃ x y z c s, b.Carries n.frameLimit [] n x y z c s := by
  obtain ⟨k, hk, hinbox⟩ := h.inbox
  obtain ⟨l, hl, hsink⟩ := h.sink
  refine ⟨_, _, _, _, _, ⟨h.reader, h.writer, hinbox, hsink, h.socket⟩, rfl, .inl rfl,
    .reading ?_, fun _ _ => .writing rfl, by simp⟩
  exact ⟨rfl, rfl, Channel.isAttended_new hk trivial, rfl, rfl, Nat.le_refl 1⟩

namespace Carries

variable {log : List Event}

/-- Only a reader at work takes steps. -/
theorem reader_of_step? (h : b.Carries limit log n x y z c s) (hn : n.step? b.reader = some n') :
    ∃ held, x = .reader b.socket b.inbox held ∧
      b.Streams limit (items log) (gotten log) (reads log) held z s := by
  cases h.inward with
  | reading hstreams => exact ⟨_, rfl, hstreams⟩
  | draining =>
      rw [Network.step?, h.reader] at hn
      cases hn

theorem ne_writer (h : b.Carries limit log n x y z c s) (k : SocketId) (i : SinkId) (r : ActorId) :
    x ≠ .writer k i r := by
  cases h.inward <;> nofun

/-- Only a writer at work takes steps. -/
theorem writer_of_step? (h : b.Carries limit log n x y z c s) (hn : n.step? b.writer = some n') :
    y = .writer b.socket b.sink b.reader := by
  rcases h.writing with hy | hy
  · exact hy
  · rw [Network.step?, h.writer, hy] at hn
    cases hn

/-- The reader takes a step. -/
theorem read (h : b.Carries limit log n x y z c s) (hne : b.reader ≠ b.writer)
    (hn : n.step? b.reader = some n') :
    ∃ x' z' s', b.Carries limit (log ++ .read :: b.newFrames n n') n' x' y z' c s' := by
  obtain ⟨held, rfl, hstreams⟩ := h.reader_of_step? hn
  obtain ⟨hlimit, x', z', s', hhas, hstep⟩ := h.toHas.reads hne hn
  obtain ⟨hended, hwritable, ps, hout⟩ := hstep.socket
  have hnew : b.newFrames n n' = (ps.map Frame.pong).map .wrote := by
    rw [h.toHas.newFrames hhas, hout, List.drop_left]
  rw [h.frameLimit] at hstep
  obtain ⟨hitems, hgotten, hsends, hreads, hfinished⟩ := hnew ▸ seen_wrote (ps.map Frame.pong)
  have hframes : frames (b.newFrames n n') = [] := hnew ▸ frames_pongs ps
  refine ⟨x', z', s', hhas, hlimit.trans h.frameLimit, h.writing, ?_, ?_, ?_⟩
  · simpa [hitems, hgotten, hreads] using hstreams.read hstep
  · intro hs _
    simpa [hsends, hframes] using h.outward (hwritable ▸ hs) rfl
  · simpa [hended, hfinished] using h.finished

/-- The writer takes a step. -/
theorem write (h : b.Carries limit log n x y z c s) (hne : b.reader ≠ b.writer)
    (hn : n.step? b.writer = some n') :
    ∃ y' d s', b.Carries limit (log ++ b.newFrames n n') n' x y' z d s' := by
  obtain rfl := h.writer_of_step? hn
  obtain ⟨hlimit, y', d, s', hhas, hstep⟩ := h.toHas.writes hne hn
  obtain ⟨hinbound, hended, hwritable⟩ := hstep.socket
  have hnew := h.toHas.newFrames hhas
  obtain ⟨hitems, hgotten, hsends, hreads, hfinished⟩ :=
    hnew ▸ seen_wrote (s'.outbound.drop s.outbound.length)
  refine ⟨y', d, s', hhas, hlimit.trans h.frameLimit, ?_, ?_, ?_, ?_⟩
  · cases hstep with
    | write => exact .inl rfl
    | _ => exact .inr rfl
  · simpa [hitems, hgotten, hreads] using h.inward.keep hinbound fun hs => hended ▸ hs
  · intro hs hx
    rw [hwritable] at hs
    have hreading : (n.ending? b.reader).isSome = false := by
      rw [Network.ending?, h.reader, Option.bind_some, hx]
      rfl
    rw [sends_append, frames_append, hsends, List.append_nil, hnew]
    exact (h.outward hs hx).write hstep hs hreading
  · simpa [hended, hfinished] using h.finished

/-- The writer leaves its sink. -/
theorem quit (h : b.Carries limit log n x y z c s) (hne : b.reader ≠ b.writer)
    (hn : n.quit? b.writer = some n') : b.Carries limit log n' x (.ended .ok) z c.close s := by
  obtain rfl : y = .writer b.socket b.sink b.reader := by
    rcases h.writing with hy | hy
    · exact hy
    · obtain ⟨_, _, _, hwriter, -⟩ := Network.quit?_cases hn
      cases (hy ▸ h.writer).symm.trans hwriter
  obtain ⟨hlimit, hended, hhas⟩ := h.toHas.quits hne hn
  refine ⟨hhas, hlimit.trans h.frameLimit, .inr rfl, h.inward, fun _ hx => ?_, h.finished⟩
  -- the reader has ended, so nothing is said about the way out
  rw [Network.ending?, h.reader, Option.bind_some, hx] at hended
  cases hended

/-- A move at the bridge. -/
theorem perform? (h : b.Carries limit log n x y z c s) (hne : b.reader ≠ b.writer) {a : Move}
    {es : List Event} (hn : b.perform? n a = some (es, n')) :
    ∃ x' y' z' d s', b.Carries limit (log ++ es) n' x' y' z' d s' := by
  cases h.toHas.moves hn with
  | @come item hopen =>
      refine ⟨x, y, z, c, _, h.toHas.setSocket _, h.frameLimit, h.writing, ?_, ?_, ?_⟩
      · simpa using h.inward.come hopen item
      · intro hs hx
        simpa using h.outward hs hx
      · simpa using h.finished
  | finish =>
      have hinward : b.Inward limit (items log) (gotten log) (reads log) x z
          { s with isEnded := true } := h.inward.keep rfl fun _ => rfl
      refine ⟨x, y, z, c, _, h.toHas.setSocket _, h.frameLimit, h.writing, ?_, ?_, ?_⟩
      · simpa using hinward
      · intro hs hx
        simpa using h.outward hs hx
      · simp
  | read hstep =>
      obtain ⟨x', z', s', hread⟩ := h.read hne hstep
      exact ⟨x', y, z', c, s', hread⟩
  | write hstep =>
      obtain ⟨y', d, s', hwrite⟩ := h.write hne hstep
      exact ⟨x, y', z, d, s', hwrite⟩
  | quit hquit => exact ⟨x, _, z, _, s, (List.append_nil log).symm ▸ h.quit hne hquit⟩
  | @receive arrival? z' hreceive =>
      refine ⟨x, y, z', c, s, h.toHas.setInbox z', h.frameLimit, h.writing, ?_, ?_, ?_⟩
      · simpa using h.inward.receive hreceive
      · simpa using h.outward
      · simpa using h.finished
  | @send t m w d hwrite =>
      refine ⟨x, y, z, d, s, h.toHas.setSink d, h.frameLimit, h.writing, ?_, ?_, ?_⟩
      · split <;> simpa using h.inward
      · intro hs hx
        have hdelivers := (h.outward hs hx).send hwrite
        split at hdelivers
        next hw => simpa [hw] using hdelivers
        next hw => simpa [hw] using hdelivers
      · split <;> simpa using h.finished

/-- Whatever happens elsewhere. -/
theorem pass (h : b.Carries limit log n x y z c s) (hn : b.IsPassed n n') :
    ∃ s', b.Carries limit log n' x y z c s' := by
  obtain ⟨s', hs', hinbound, hended, hwritable⟩ := hn.socket s h.socket
  exact ⟨s', ⟨hn.reader.trans h.reader, hn.writer.trans h.writer, hn.inbox.trans h.inbox,
    hn.sink.trans h.sink, hs'⟩, hn.frameLimit.trans h.frameLimit, h.writing,
    h.inward.keep hinbound fun hs => hended ▸ hs, fun hs hx => h.outward (hwritable hs) hx,
    hended ▸ h.finished⟩

end Carries

theorem IsFresh.carries_of_course {log : List Event} (h₀ : b.IsFresh n₀) (h : b.Course n₀ log n) :
    ∃ x y z c s, b.Carries n₀.frameLimit log n x y z c s := by
  induction h with
  | start => exact h₀.carries
  | move a hn _ ih =>
      obtain ⟨x, y, z, c, s, hcarries⟩ := ih
      exact hcarries.perform? h₀.ne hn
  | pass hn _ ih =>
      obtain ⟨x, y, z, c, s, hcarries⟩ := ih
      obtain ⟨s', hpassed⟩ := hcarries.pass hn
      exact ⟨x, y, z, c, s', hpassed⟩

end ControlPlane.Bridge
