import ControlPlane.Proofs.Network.Passage
import ControlPlane.Proofs.Network.Progress

/-!
# A bridge is a faithful pipe

What the handler of a stream gets is what came out of the socket, and what is written to the socket
is what was sent to the sink: nothing is lost, nothing is doubled, and the order stays
(`Bridge.IsFaithful`). All of it is read off what is under way (`Bridge.Carries`).

Main statements: `Bridge.isFaithful_of_course`, for every order of moves, every limit on the size of
frames and every capacity of the queues, and `Bridge.isFaithful_of_runs`, for the bridge of a socket
that was opened in any network, whatever happened before and after.
-/

set_option autoImplicit false

namespace ControlPlane.Bridge

/-- The client takes frames and the reader reads. -/
def IsUp (b : Bridge) (n : Network) : Prop :=
  (∃ s, n.sockets.find? b.socket = some s ∧ s.isWritable = true) ∧ n.ending? b.reader = none

/-- What a peer with a limit of its own makes of the frames that were written. -/
def decoded (limit : Nat) (fs : List Frame) : List (Except FrameError StreamMessage) :=
  fs.filterMap fun
    | .binary data => some (decodeFrame limit data)
    | _ => none

/-- What goes in at one end comes out at the other. -/
structure IsFaithful (b : Bridge) (limit : Nat) (log : List Event) (n : Network) : Prop where
  /-- The handler gets what is to be heard, in order, and then nothing but the end of its stream, for
  which it has to have got all, and for which there has to be an end. -/
  gotten : ∃ arrivals k, gotten log = arrivals.map some ++ List.replicate k none ∧
    arrivals <+: heard limit (items log) ∧
    (k ≠ 0 → arrivals = heard limit (items log) ∧ IsOver log)
  /-- Where the reader cannot go on, and the handler has nothing to receive or has found the end, it
  got all that is to be heard; it has found the end exactly when there was one. -/
  complete : b.perform? n .read = none → (b.perform? n .receive = none ∨ none ∈ Bridge.gotten log) →
    ∃ k, Bridge.gotten log = (heard limit (items log)).map some ++ List.replicate k none ∧
      (k ≠ 0 ↔ IsOver log)
  /-- The reader cannot go on forever. -/
  bounded : reads log ≤ 3 * (items log).length + 1
  /-- The frames that were written are those of the messages that were sent, as far as they are not in
  the sink any more, and then a close frame, after which the writer is gone. -/
  written : b.IsUp n →
    frames log ++ (n.queueOf b.sink).map .ofMessage = (sends log).map .ofMessage ∨
      frames log = (sends log).map .ofMessage ++ [.close] ∧ n.isSinkClosed b.sink = true
  /-- Where the writer cannot go on, all was written, and if nobody can write to the sink any more
  then so was the close frame. -/
  flushed : b.IsUp n → b.perform? n .write = none →
    frames log = (sends log).map .ofMessage ∧ n.hasHolder b.sink = true ∨
      frames log = (sends log).map .ofMessage ++ [.close]
  /-- A close frame is written only when nobody can write to the sink any more. -/
  closing : ∀ a es n', b.perform? n a = some (es, n') → .wrote .close ∈ es →
    n.hasHolder b.sink = false
  /-- A peer recovers the messages from the frames, if they are within its limit. -/
  recovered : b.IsUp n → ∀ bound, (∀ m ∈ sends log, m.Fits ∧ m.toBytes.length ≤ bound) →
    decoded bound (frames log) <+: (sends log).map .ok ∧
      (b.perform? n .write = none → decoded bound (frames log) = (sends log).map .ok)

variable {b : Bridge} {limit taken : Nat} {came : List SocketItem} {got : List (Option Arrival)}
  {log : List Event} {n n' n₀ : Network} {x y : Actor} {z : Inbox} {c : Channel StreamMessage}
  {s : Socket} {held : Option Arrival}

/-! ## What the handler sees -/

/-- What the handler got of what is to be heard is its first part. -/
theorem exists_arrivals {as bs : List Arrival} (h : got ++ bs.map some = as.map some) :
    ∃ arrivals, got = arrivals.map some ∧ arrivals <+: as := by
  obtain ⟨arrivals, rest, rfl, hgot, -⟩ := List.map_eq_append_iff.mp h.symm
  exact ⟨arrivals, hgot.symm, List.prefix_append ..⟩

/-- It has not found the end then. -/
theorem none_not_mem {as bs : List Arrival} (h : got ++ bs.map some = as.map some) :
    none ∉ got := by
  obtain ⟨arrivals, rfl, -⟩ := exists_arrivals h
  simp

/-- A reader that cannot write has filled its inbox. -/
theorem Streams.queue_ne_nil {a : Arrival} (h : b.Streams limit came got taken held z s)
    (hblocked : z.channel.IsBlocked b.reader a) : z.channel.queue ≠ [] := by
  obtain ⟨-, hqueue | ⟨u, hu⟩⟩ := h.attended.exists_of_isBlocked hblocked
  · exact hqueue
  · obtain ⟨rfl, -⟩ := h.attended.waits u (List.mem_append_left _ hu)
    exact absurd (.inl hu) hblocked.not_isReady

/-- Where the reader waits for the socket and the inbox is empty, the handler got all that is to be
heard, and there was no end. -/
theorem Streams.complete (h : b.Streams limit came got taken none z s)
    (hempty : z.channel.queue = []) (hinbound : s.inbound = []) :
    got = (heard limit came).map some ∧ came.any isLast = false := by
  have hcarried := h.carried
  have hclosing := h.closing
  rw [hempty, hinbound] at hcarried
  rw [hinbound] at hclosing
  exact ⟨(List.append_nil got).symm.trans hcarried, hclosing⟩

/-- Where the handler found the end, it got all that is to be heard. -/
theorem Drains.complete {k : Nat} (h : Drains limit came got taken k z s) (hk : k ≠ 0) :
    got = (heard limit came).map some ++ List.replicate k none := by
  have hcarried := h.carried
  rwa [h.drained hk, List.map_nil, List.append_nil] at hcarried

namespace Carries

/-- The end of the socket, or an item that was the end, is one of the log. -/
theorem isOver_iff (h : b.Carries limit log n x y z c s) :
    IsOver log ↔ (items log).any isLast = true ∨ s.isEnded = true := by
  rw [IsOver, h.finished]

/-- Where the reader cannot go on, and the handler has nothing to receive or has found the end, it
got everything. -/
theorem complete (h : b.Carries limit log n x y z c s) (hread : n.step? b.reader = none)
    (hreceive : z.receive? = none ∨ none ∈ Bridge.gotten log) :
    ∃ k, Bridge.gotten log = (heard limit (items log)).map some ++ List.replicate k none ∧
      (k ≠ 0 ↔ IsOver log) := by
  have hover := h.isOver_iff
  have hreader := h.reader
  have hinbox := h.inbox
  have hsocket := h.socket
  cases h.inward with
  | @reading held _ _ hstreams =>
      have hnone := hreceive.resolve_right (none_not_mem hstreams.carried)
      have hempty := (Inbox.receive?_eq_none_iff.mp hnone).1
      cases held with
      | some a =>
          have hblocked : z.channel.IsBlocked b.reader a := fun w d hw =>
            Decidable.byContradiction fun hne =>
              Network.not_lightens hread (Network.lightens_of_held hreader hinbox hw hne)
          exact absurd hempty (hstreams.queue_ne_nil hblocked)
      | none =>
          have hinbound : s.inbound = [] := Classical.byContradiction fun hne =>
            Network.not_lightens hread (Network.lightens_of_inbound hreader hsocket hne)
          have hended : s.isEnded = false := by
            simp only [Network.step?, hreader, Network.readerStep?, hsocket, hinbound,
              Option.bind_eq_bind, Option.bind_some] at hread
            cases hended : s.isEnded with
            | false => rfl
            | true => simp [hended] at hread
          obtain ⟨hgotten, hlast⟩ := hstreams.complete hempty hinbound
          refine ⟨0, ?_, fun hk => absurd rfl hk, fun hmem => ?_⟩
          · rw [hgotten, List.replicate_zero, List.append_nil]
          · rw [hover, hlast, hended] at hmem
            cases hmem <;> contradiction
  | @draining k _ _ hdrains =>
      have hmem : none ∈ Bridge.gotten log := by
        refine hreceive.resolve_left fun hnone => ?_
        have hsender := (Inbox.receive?_eq_none_iff.mp hnone).2
        rw [hdrains.hasSender] at hsender
        cases hsender
      have hk : k ≠ 0 := by
        rintro rfl
        have hcarried := hdrains.carried
        rw [List.replicate_zero, List.append_nil] at hcarried
        exact none_not_mem hcarried hmem
      exact ⟨k, hdrains.complete hk, fun _ => hover.mpr hdrains.isOver, fun _ => hk⟩

/-- What the handler got is a part of what is to be heard, and then nothing but the end. -/
theorem gotten (h : b.Carries limit log n x y z c s) :
    ∃ arrivals k, Bridge.gotten log = arrivals.map some ++ List.replicate k none ∧
      arrivals <+: heard limit (items log) ∧
      (k ≠ 0 → arrivals = heard limit (items log) ∧ IsOver log) := by
  -- as long as it has not found the end
  have hpart {bs : List Arrival}
      (hcarried : Bridge.gotten log ++ bs.map some = (heard limit (items log)).map some) :
      ∃ arrivals k, Bridge.gotten log = arrivals.map some ++ List.replicate k none ∧
        arrivals <+: heard limit (items log) ∧
        (k ≠ 0 → arrivals = heard limit (items log) ∧ IsOver log) := by
    obtain ⟨arrivals, hgotten, hprefix⟩ := exists_arrivals hcarried
    exact ⟨arrivals, 0, by rw [hgotten, List.replicate_zero, List.append_nil], hprefix,
      fun hk => absurd rfl hk⟩
  have hover := h.isOver_iff
  cases h.inward with
  | reading hstreams => exact hpart hstreams.carried
  | @draining k _ _ hdrains =>
      cases k with
      | zero => exact hpart (hdrains.carried.trans (List.append_nil _))
      | succ k =>
          exact ⟨_, k + 1, hdrains.complete k.succ_ne_zero, List.prefix_rfl,
            fun _ => ⟨rfl, hover.mpr hdrains.isOver⟩⟩

theorem bounded (h : b.Carries limit log n x y z c s) :
    reads log ≤ 3 * (items log).length + 1 := by
  cases h.inward with
  | reading hstreams =>
      have hbounded := hstreams.bounded
      omega
  | draining hdrains => exact hdrains.bounded

/-! ## What the client sees -/

/-- While both ends are up, the way out is that of a writer at work or of one that has ended. -/
theorem delivers (h : b.Carries limit log n x y z c s) (hup : b.IsUp n) :
    b.Delivers (sends log) (frames log) y c := by
  obtain ⟨⟨s', hs', hwritable⟩, hreading⟩ := hup
  obtain rfl : s' = s := Option.some.inj (hs'.symm.trans h.socket)
  rw [Network.ending?, h.reader, Option.bind_some] at hreading
  exact h.outward hwritable hreading

theorem written (h : b.Carries limit log n x y z c s) (hup : b.IsUp n) :
    frames log ++ (n.queueOf b.sink).map .ofMessage = (sends log).map .ofMessage ∨
      frames log = (sends log).map .ofMessage ++ [.close] ∧ n.isSinkClosed b.sink = true := by
  have hsink := h.sink
  cases h.delivers hup with
  | writing hwrote =>
      rw [Network.queueOf, hsink]
      exact .inl hwrote
  | done hclosed hwrote =>
      refine .inr ⟨hwrote, ?_⟩
      rw [Network.isSinkClosed, hsink]
      simp [hclosed]

/-- A writer that cannot go on waits for somebody who can write to its sink. -/
theorem flushed (h : b.Carries limit log n x y z c s) (hup : b.IsUp n)
    (hwrite : n.step? b.writer = none) :
    frames log = (sends log).map .ofMessage ∧ n.hasHolder b.sink = true ∨
      frames log = (sends log).map .ofMessage ++ [.close] := by
  have hwriter := h.writer
  have hsocket := h.socket
  have hsink := h.sink
  cases h.delivers hup with
  | writing hwrote =>
      have hempty : c.queue = [] := Classical.byContradiction fun hne =>
        Network.not_lightens hwrite (Network.lightens_of_writer hwriter hsocket hsink hne)
      rw [hempty, List.map_nil, List.append_nil] at hwrote
      refine .inl ⟨hwrote, ?_⟩
      simp only [Network.step?, hwriter, Network.writerStep?, hsocket, hsink,
        Channel.take?_eq_none_iff.mpr hempty, Option.bind_eq_bind, Option.bind_some] at hwrite
      split at hwrite
      next hholder => exact hholder
      next => cases hwrite
  | done _ hwrote => exact .inr hwrote

/-- Of the frames of a bridge only the writer's last one is a close frame. -/
theorem closing (h : b.Carries limit log n x y z c s) (hne : b.reader ≠ b.writer) {a : Move}
    {es : List Event} (hn : b.perform? n a = some (es, n')) (hmem : .wrote .close ∈ es) :
    n.hasHolder b.sink = false := by
  cases h.toHas.moves hn with
  | read hstep =>
      obtain ⟨held, rfl, -⟩ := h.reader_of_step? hstep
      obtain ⟨-, x', z', s', hhas, hreads⟩ := h.toHas.reads hne hstep
      obtain ⟨-, -, ps, hout⟩ := hreads.socket
      rw [h.toHas.newFrames hhas, hout, List.drop_left] at hmem
      simp at hmem
  | write hstep =>
      obtain rfl := h.writer_of_step? hstep
      obtain ⟨-, y', d, s', hhas, hwrites⟩ := h.toHas.writes hne hstep
      rw [h.toHas.newFrames hhas] at hmem
      cases hwrites with
      | close _ hholder => exact hholder
      | _ => simp [Socket.write, Frame.ofMessage] at hmem
  | send hwrite => split at hmem <;> simp at hmem
  | _ => simp at hmem

end Carries

/-! ## The peer -/

theorem decodeFrame_toBytes {m : StreamMessage} {bound : Nat} (hfits : m.Fits)
    (hbound : m.toBytes.length ≤ bound) : decodeFrame bound m.toBytes = .ok m := by
  have hread : StreamMessage.ofBytes? m.toBytes = some m :=
    StreamMessage.reads_scan.read?_eq_some.mpr ⟨hfits, List.prefix_rfl⟩
  rw [decodeFrame, if_neg (Nat.not_lt.mpr hbound), hread]

theorem decoded_ofMessage {bound : Nat} (ms : List StreamMessage)
    (h : ∀ m ∈ ms, m.Fits ∧ m.toBytes.length ≤ bound) :
    decoded bound (ms.map .ofMessage) = ms.map .ok := by
  induction ms with
  | nil => rfl
  | cons m ms ih =>
      obtain ⟨hfits, hbound⟩ := h m (List.mem_cons_self ..)
      have hrest := ih fun m' hm' => h m' (List.mem_cons_of_mem _ hm')
      calc decoded bound ((m :: ms).map .ofMessage)
          = decodeFrame bound m.toBytes :: decoded bound (ms.map .ofMessage) := rfl
        _ = (m :: ms).map .ok := by rw [decodeFrame_toBytes hfits hbound, hrest, List.map_cons]

theorem decoded_append (bound : Nat) (fs gs : List Frame) :
    decoded bound (fs ++ gs) = decoded bound fs ++ decoded bound gs := List.filterMap_append

theorem Carries.recovered (h : b.Carries limit log n x y z c s) (hup : b.IsUp n) {bound : Nat}
    (hfits : ∀ m ∈ sends log, m.Fits ∧ m.toBytes.length ≤ bound) :
    decoded bound (frames log) <+: (sends log).map .ok ∧
      (n.step? b.writer = none → decoded bound (frames log) = (sends log).map .ok) := by
  have hall := decoded_ofMessage (sends log) hfits
  have hclose (hout : frames log = (sends log).map .ofMessage ++ [.close]) :
      decoded bound (frames log) = (sends log).map .ok := by
    rw [hout, decoded_append, hall]
    exact List.append_nil _
  constructor
  · rcases h.written hup with hout | ⟨hout, -⟩
    · rw [← hall, ← hout, decoded_append]
      exact List.prefix_append _ _
    · exact hclose hout ▸ List.prefix_rfl
  · intro hwrite
    rcases h.flushed hup hwrite with ⟨hout, -⟩ | hout
    · rw [hout, hall]
    · exact hclose hout

/-! ## The main statement -/

theorem Carries.isFaithful (hcarries : b.Carries limit log n x y z c s)
    (hne : b.reader ≠ b.writer) : b.IsFaithful limit log n := by
  have hread : b.perform? n .read = none → n.step? b.reader = none := by
    intro hnone
    cases hstep : n.step? b.reader with
    | none => rfl
    | some n' => simp [Bridge.perform?, hstep] at hnone
  have hwrite : b.perform? n .write = none → n.step? b.writer = none := by
    intro hnone
    cases hstep : n.step? b.writer with
    | none => rfl
    | some n' => simp [Bridge.perform?, hstep] at hnone
  have hreceive : b.perform? n .receive = none → z.receive? = none := by
    intro hnone
    cases hgot : z.receive? with
    | none => rfl
    | some q => simp [Bridge.perform?, hcarries.inbox, hgot] at hnone
  exact
    { gotten := hcarries.gotten
      complete := fun hr hrec => hcarries.complete (hread hr) (hrec.imp_left hreceive)
      bounded := hcarries.bounded
      written := hcarries.written
      flushed := fun hup hw => hcarries.flushed hup (hwrite hw)
      closing := fun a es n' hn hmem => hcarries.closing hne hn hmem
      recovered := fun hup bound hfits =>
        have hrecovered := hcarries.recovered hup hfits
        ⟨hrecovered.1, fun hw => hrecovered.2 (hwrite hw)⟩ }

/-- **A bridge is a faithful pipe.** Whatever comes out of the socket, whenever the handler receives
and whoever writes to the sink: in every course of a bridge, in which its reader and its writer may
take their steps in any order, the handler gets what is to be heard and the client what was sent. -/
theorem isFaithful_of_course (h₀ : b.IsFresh n₀) (h : b.Course n₀ log n) :
    b.IsFaithful n₀.frameLimit log n := by
  obtain ⟨x, y, z, c, s, hcarries⟩ := h₀.carries_of_course h
  exact hcarries.isFaithful h₀.ne

section Runs

variable {ε : Type} {note : Network → Act → List ε} {past future : List ε} {n₁ : Network}
  {capacity : Nat} {p : Network.Purpose}

/-- **So is that of every socket of a network.** Whatever clients, streams and services did before a
socket was opened and do after that, until the actor of its stream ends: it is a course of the bridge
of the socket, and the bridge is a faithful pipe. -/
theorem isFaithful_of_runs (h₀ : n₀.IsVacant) (hbefore : Runs note Act.IsBridged n₀ past n₁)
    (hp : ∀ key, p ≠ .control key) (hcapacity : 0 < capacity)
    (hafter : Runs note Act.IsBridged (n₁.openSocket p capacity).2 future n)
    (hup : n.ending? n₁.actors.size = none) :
    ∃ seen, (next n₁).Course (n₁.openSocket p capacity).2 seen n ∧
      (next n₁).IsFaithful (n₁.openSocket p capacity).2.frameLimit seen n := by
  have hattended := h₀.attended_of_runs hbefore
  have hfresh := isFresh_openSocket hattended.actors hcapacity hp
  obtain ⟨seen, hcourse, -⟩ := leads_of_runs hattended hp hcapacity hafter hup
  obtain ⟨x, y, z, c, s, hcarries⟩ := hfresh.carries_of_course hcourse
  exact ⟨seen, hcourse, hcarries.isFaithful hfresh.ne⟩

end Runs

/-! ### A client that fails -/

/-- Makes moves in order, as long as they are possible. -/
def play (b : Bridge) : List Move → Network → Option (List Event × Network)
  | [], n => some ([], n)
  | a :: as, n => do
      let (es, next) ← b.perform? n a
      let (log, last) ← b.play as next
      return (es ++ log, last)

theorem course_of_play {as : List Move} (h : b.play as n = some (log, n')) : b.Course n log n' := by
  induction as generalizing n log with
  | nil =>
      cases h
      exact .start
  | cons a as ih =>
      simp only [play, Option.bind_eq_bind, Option.bind_eq_some_iff] at h
      obtain ⟨⟨es, next⟩, hnext, ⟨rest, last⟩, hrest, h⟩ := h
      obtain ⟨rfl, rfl⟩ : es ++ rest = log ∧ last = n' := by simpa using h
      exact (Course.start.move a hnext).trans (ih hrest)

/-- A client whose messages fill the inbox sends a text as well, and fails; in the meantime a message
is sent to it, which it recovers. -/
def failure : List Move :=
  [.come (.ok (.ofMessage (.connect "a"))), .come (.ok (.text "a")),
    .come (.ok (.ofMessage (.connect "b"))), .come (.error "reset"),
    .read, .read, .read, .read, .read, .send 0 (.connect "c"), .write,
    .receive, .read, .read, .read, .receive, .read, .receive, .receive]

def failureLog : List Event :=
  [.came (.ok (.ofMessage (.connect "a"))), .came (.ok (.text "a")),
    .came (.ok (.ofMessage (.connect "b"))), .came (.error "reset"),
    .read, .read, .read, .read, .read, .sent (.connect "c"), .wrote (.ofMessage (.connect "c")),
    .got (some (.ok (.connect "a"))), .read, .read, .read,
    .got (some (.ok (.connect "b"))), .read, .got (some (.error (.transport "reset"))), .got none]

/-- The handler gets both messages, one failure and the end. -/
theorem isFaithful_failure : ∃ n₀ n : Network, ∃ b : Bridge, b.IsFresh n₀ ∧
    b.Course n₀ failureLog n ∧ b.IsFaithful n₀.frameLimit failureLog n := by
  let vacant : Network := { Network.vacant with frameLimit := 64 }
  have hvacant : vacant.IsVacant := ⟨rfl, rfl, rfl, rfl, fun _ => rfl⟩
  have hfresh := isFresh_openSocket hvacant.isAttended.actors Nat.one_pos (p := .messages)
    fun _ => nofun
  have hlog : ((next vacant).play failure (vacant.openSocket .messages 1).2).any
      (fun p => p.1 = failureLog) = true := by decide +kernel
  obtain ⟨⟨log, n⟩, hplay, heq⟩ := (Option.any_eq_true _ _).mp hlog
  obtain rfl : log = failureLog := of_decide_eq_true heq
  have hcourse := course_of_play hplay
  exact ⟨_, n, next vacant, hfresh, hcourse, isFaithful_of_course hfresh hcourse⟩

end ControlPlane.Bridge
