import ControlPlane.Envelope.Wire
import ControlPlane.Proofs.Text.Utf8
import Mathlib.Algebra.Group.Nat.Defs

/-!
# The binary form of envelopes is exact

An envelope is read from a byte string exactly when what is written of it stands at the front
(`Wire.Reads`): it is read back whatever follows, and nothing but its own form is read as it. So no
form begins with another, and a form that was cut short is not read (`Wire.IsExact`). A length takes
eight octets on the wire, so byte strings have to be shorter than `2^64` octets (`Wire.Fits`), as
all byte strings of a machine are.

Main statements: each field is read by its reader as its writer writes it, and what that comes to
for the four envelopes (`Wire.isExact_envelopes`).
-/

set_option autoImplicit false

namespace ControlPlane

namespace Wire

/-! ## Integers -/

theorem length_littleEndian (width n : Nat) : (littleEndian width n).length = width := by
  induction width generalizing n with
  | zero => rfl
  | succ width ih => rw [littleEndian, List.length_cons, ih]

theorem ofLittleEndian_littleEndian (width n : Nat) :
    ofLittleEndian (littleEndian width n) = n % 256 ^ width := by
  induction width generalizing n with
  | zero => exact (Nat.mod_one n).symm
  | succ width ih =>
      -- the first octet is the lowest digit to the base 256
      have hoctet : (UInt8.ofNat n).toNat = n % 256 := rfl
      calc ofLittleEndian (littleEndian (width + 1) n)
          = (UInt8.ofNat n).toNat + 256 * ofLittleEndian (littleEndian width (n / 256)) := rfl
        _ = n % 256 + 256 * (n / 256 % 256 ^ width) := by rw [ih, hoctet]
        _ = n % (256 * 256 ^ width) := by rw [Nat.mod_mul]
        _ = n % 256 ^ (width + 1) := by rw [Nat.pow_succ, Nat.mul_comm]

theorem ofLittleEndian_cons (b : UInt8) (bs : Bytes) :
    ofLittleEndian (b :: bs) = b.toNat + 256 * ofLittleEndian bs := rfl

theorem ofLittleEndian_lt (bs : Bytes) : ofLittleEndian bs < 256 ^ bs.length := by
  induction bs with
  | nil => decide
  | cons b bs ih =>
      have hb : b.toNat < 256 := b.toNat_lt
      rw [ofLittleEndian_cons, List.length_cons, Nat.pow_succ]
      omega

theorem littleEndian_ofLittleEndian (bs : Bytes) :
    littleEndian bs.length (ofLittleEndian bs) = bs := by
  induction bs with
  | nil => rfl
  | cons b bs ih =>
      have hb : b.toNat < 256 := b.toNat_lt
      have hlow : UInt8.ofNat (b.toNat + 256 * ofLittleEndian bs) = b := by
        apply UInt8.toNat_inj.mp
        rw [UInt8.toNat_ofNat']
        omega
      have hhigh : (b.toNat + 256 * ofLittleEndian bs) / 256 = ofLittleEndian bs := by omega
      rw [ofLittleEndian_cons, List.length_cons, littleEndian, hlow, hhigh, ih]

/-! ## Readers -/

section

variable {α β : Type} {scan : Scan α} {write : α → Bytes} {fits : α → Prop}

/-- A reader takes from the front exactly what a writer writes of a value that fits. -/
def Reads (scan : Scan α) (write : α → Bytes) (fits : α → Prop) : Prop :=
  ∀ bs a rest, scan bs = some (a, rest) ↔ fits a ∧ bs = write a ++ rest

theorem pure_eq_some {a b : α} {bs rest : Bytes} :
    (pure a : Scan α) bs = some (b, rest) ↔ a = b ∧ bs = rest := by
  show some (a, bs) = some (b, rest) ↔ _
  rw [Option.some.injEq, Prod.mk.injEq]

/-- What is read after a field. -/
theorem Reads.bind (h : Reads scan write fits) (f : α → Scan β) {bs rest : Bytes} {b : β} :
    (scan >>= f) bs = some (b, rest) ↔
      ∃ a mid, fits a ∧ bs = write a ++ mid ∧ f a mid = some (b, rest) := by
  show (scan bs).bind (fun p => f p.1 p.2) = some (b, rest) ↔ _
  rw [Option.bind_eq_some_iff]
  constructor
  · rintro ⟨⟨a, mid⟩, hscan, hf⟩
    obtain ⟨ha, hbs⟩ := (h _ _ _).mp hscan
    exact ⟨a, mid, ha, hbs, hf⟩
  · rintro ⟨a, mid, ha, hbs, hf⟩
    exact ⟨(a, mid), (h _ _ _).mpr ⟨ha, hbs⟩, hf⟩

theorem Reads.read?_eq_some (h : Reads scan write fits) {bs : Bytes} {a : α} :
    read? scan bs = some a ↔ fits a ∧ write a <+: bs := by
  rw [read?, Option.map_eq_some_iff]
  constructor
  · rintro ⟨⟨a, rest⟩, hscan, rfl⟩
    obtain ⟨ha, hbs⟩ := (h _ _ _).mp hscan
    exact ⟨ha, rest, hbs.symm⟩
  · rintro ⟨ha, rest, hbs⟩
    exact ⟨(a, rest), (h _ _ _).mpr ⟨ha, hbs.symm⟩, rfl⟩

end

/-! ## Fields -/

theorem take_eq_some {n : Nat} {as bs rest : Bytes} :
    take n bs = some (as, rest) ↔ as.length = n ∧ bs = as ++ rest := by
  show (if n ≤ bs.length then some (bs.take n, bs.drop n) else none) = some (as, rest) ↔ _
  constructor
  · intro h
    split at h
    next hn =>
      cases h
      exact ⟨List.length_take_of_le hn, (List.take_append_drop n bs).symm⟩
    next => cases h
  · rintro ⟨rfl, rfl⟩
    rw [if_pos (by simp), List.take_left, List.drop_left]

theorem reads_readNat (width : Nat) :
    Reads (readNat width) (littleEndian width) (· < 256 ^ width) := by
  intro bs n rest
  show (take width bs).bind (fun p => some (ofLittleEndian p.1, p.2)) = some (n, rest) ↔ _
  rw [Option.bind_eq_some_iff]
  constructor
  · rintro ⟨⟨as, rest⟩, htake, h⟩
    obtain ⟨rfl, rfl⟩ := take_eq_some.mp htake
    cases h
    exact ⟨ofLittleEndian_lt as, by rw [littleEndian_ofLittleEndian]⟩
  · rintro ⟨hn, rfl⟩
    refine ⟨(littleEndian width n, rest), take_eq_some.mpr ⟨length_littleEndian _ _, rfl⟩, ?_⟩
    rw [ofLittleEndian_littleEndian, Nat.mod_eq_of_lt hn]

theorem reads_readInt32 : Reads readInt32 writeInt32 fun _ => True := by
  intro bs n rest
  rw [readInt32, (reads_readNat 4).bind]
  constructor
  · rintro ⟨k, mid, hk, rfl, h⟩
    obtain ⟨rfl, rfl⟩ := pure_eq_some.mp h
    have hk : k < UInt32.size := hk
    refine ⟨trivial, ?_⟩
    show _ = littleEndian 4 (UInt32.ofNat k).toNat ++ mid
    rw [UInt32.toNat_ofNat_of_lt' hk]
  · rintro ⟨-, rfl⟩
    refine ⟨n.toUInt32.toNat, rest, n.toUInt32.toNat_lt, rfl, pure_eq_some.mpr ⟨?_, rfl⟩⟩
    rw [UInt32.ofNat_toNat]
    rfl

/-- The length of the byte string can be written. -/
def Fits (bs : Bytes) : Prop := bs.length < 2 ^ 64

instance (bs : Bytes) : Decidable (Fits bs) := inferInstanceAs (Decidable (_ < _))

theorem reads_readBytes : Reads readBytes writeBytes Fits := by
  intro bs as rest
  rw [readBytes, (reads_readNat 8).bind]
  constructor
  · rintro ⟨n, mid, hn, rfl, h⟩
    obtain ⟨rfl, rfl⟩ := take_eq_some.mp h
    exact ⟨hn, by rw [writeBytes, List.append_assoc]⟩
  · rintro ⟨has, rfl⟩
    exact ⟨as.length, as ++ rest, has, List.append_assoc _ _ _, take_eq_some.mpr ⟨rfl, rfl⟩⟩

theorem reads_readText : Reads readText writeText fun s => Fits (Bytes.ofString s) := by
  intro bs s rest
  rw [readText, reads_readBytes.bind]
  constructor
  · rintro ⟨as, mid, has, rfl, h⟩
    cases htext : as.text? with
    | none =>
        rw [htext] at h
        cases h
    | some s' =>
        rw [htext] at h
        obtain ⟨rfl, rfl⟩ := pure_eq_some.mp h
        obtain rfl := Bytes.text?_eq_some.mp htext
        exact ⟨has, rfl⟩
  · rintro ⟨hs, rfl⟩
    refine ⟨Bytes.ofString s, rest, hs, rfl, ?_⟩
    rw [Bytes.text?_ofString]
    rfl

end Wire

open Wire

/-! ## Envelopes -/

theorem ResponseCode.reads_scan : Reads scan toBytes fun _ => True := by
  intro bs c rest
  rw [scan, (reads_readNat 4).bind]
  constructor
  · rintro ⟨n, mid, -, rfl, h⟩
    match n, h with
    | 0, h =>
        obtain ⟨rfl, rfl⟩ := pure_eq_some.mp h
        exact ⟨trivial, rfl⟩
    | 1, h =>
        obtain ⟨rfl, rfl⟩ := pure_eq_some.mp h
        exact ⟨trivial, rfl⟩
    | _ + 2, h => cases h
  · rintro ⟨-, rfl⟩
    cases c with
    | ok => exact ⟨0, rest, by decide, rfl, rfl⟩
    | error => exact ⟨1, rest, by decide, rfl, rfl⟩

/-- The lengths in a request can be written. -/
structure Request.Fits (r : Request) : Prop where
  nodeKey : Wire.Fits (Bytes.ofString r.nodeKey)
  data : Wire.Fits r.data

theorem Request.reads_scan : Reads scan toBytes Fits := by
  intro bs r rest
  simp only [scan, reads_readText.bind, reads_readBytes.bind, pure_eq_some]
  constructor
  · rintro ⟨nodeKey, _, hkey, rfl, data, _, hdata, rfl, rfl, rfl⟩
    exact ⟨⟨hkey, hdata⟩, by simp only [toBytes, List.append_assoc]⟩
  · rintro ⟨h, rfl⟩
    exact ⟨r.nodeKey, _, h.nodeKey, by simp only [toBytes, List.append_assoc], r.data, rest,
      h.data, rfl, rfl, rfl⟩

/-- The lengths in a response can be written. -/
structure Response.Fits (r : Response) : Prop where
  message : Wire.Fits (Bytes.ofString r.message)
  data : Wire.Fits r.data

theorem Response.reads_scan : Reads scan toBytes Fits := by
  intro bs r rest
  simp only [scan, ResponseCode.reads_scan.bind, reads_readInt32.bind, reads_readText.bind,
    reads_readBytes.bind, pure_eq_some]
  constructor
  · rintro ⟨code, _, -, rfl, errorCode, _, -, rfl, message, _, hmessage, rfl, data, _, hdata, rfl,
      rfl, rfl⟩
    exact ⟨⟨hmessage, hdata⟩, by simp only [toBytes, List.append_assoc]⟩
  · rintro ⟨h, rfl⟩
    exact ⟨r.code, _, trivial, by simp only [toBytes, List.append_assoc], r.errorCode, _, trivial,
      rfl, r.message, _, h.message, rfl, r.data, rest, h.data, rfl, rfl, rfl⟩

/-- The lengths in a stream message can be written. -/
structure StreamMessage.Fits (m : StreamMessage) : Prop where
  nodeKey : Wire.Fits (Bytes.ofString m.nodeKey)
  key : Wire.Fits (Bytes.ofString m.key)
  sender : Wire.Fits (Bytes.ofString m.sender)
  receiver : Wire.Fits (Bytes.ofString m.receiver)
  data : Wire.Fits m.data

theorem StreamMessage.reads_scan : Reads scan toBytes Fits := by
  intro bs m rest
  simp only [scan, reads_readInt32.bind, reads_readText.bind, reads_readBytes.bind, pure_eq_some]
  constructor
  · rintro ⟨code, _, -, rfl, nodeKey, _, hnode, rfl, key, _, hkey, rfl, sender, _, hsender, rfl,
      receiver, _, hreceiver, rfl, data, _, hdata, rfl, rfl, rfl⟩
    exact ⟨⟨hnode, hkey, hsender, hreceiver, hdata⟩, by simp only [toBytes, List.append_assoc]⟩
  · rintro ⟨h, rfl⟩
    exact ⟨m.code, _, trivial, by simp only [toBytes, List.append_assoc], m.nodeKey, _, h.nodeKey,
      rfl, m.key, _, h.key, rfl, m.sender, _, h.sender, rfl, m.receiver, _, h.receiver, rfl,
      m.data, rest, h.data, rfl, rfl, rfl⟩

/-- The length in a delegate message can be written. -/
def DelegateMessage.Fits (m : DelegateMessage) : Prop := Wire.Fits m.data

theorem DelegateMessage.reads_scan : Reads scan toBytes Fits := by
  intro bs m rest
  simp only [scan, reads_readInt32.bind, reads_readBytes.bind, pure_eq_some]
  constructor
  · rintro ⟨modelId, _, -, rfl, method, _, -, rfl, data, _, hdata, rfl, rfl, rfl⟩
    exact ⟨hdata, by simp only [toBytes, List.append_assoc]⟩
  · rintro ⟨h, rfl⟩
    exact ⟨m.modelId, _, trivial, by simp only [toBytes, List.append_assoc], m.method, _, trivial,
      rfl, m.data, rest, h, rfl, rfl, rfl⟩

/-- **A delegate message is read back from its octets.** -/
theorem DelegateMessage.ofBytes?_toBytes {m : DelegateMessage} (h : Wire.Fits m.data) :
    ofBytes? m.toBytes = some m :=
  reads_scan.read?_eq_some.mpr ⟨h, List.prefix_rfl⟩

namespace Wire

/-- Values are written and read in an exact form. -/
structure IsExact {α : Type} (toBytes : α → Bytes) (ofBytes? : Bytes → Option α)
    (fits : α → Prop) : Prop where
  /-- A value is read back, whatever follows it. -/
  restored : ∀ a, fits a → ∀ rest, ofBytes? (toBytes a ++ rest) = some a
  /-- What a value was read from begins with what is written of it. -/
  written : ∀ bs a, ofBytes? bs = some a → fits a ∧ toBytes a <+: bs
  /-- No form begins with another. -/
  prefixFree : ∀ a b, fits a → fits b → toBytes a <+: toBytes b → a = b
  /-- A form that was cut short is not read. -/
  cut : ∀ a, fits a → ∀ bs, bs <+: toBytes a → bs ≠ toBytes a → ofBytes? bs = none

theorem Reads.isExact {α : Type} {scan : Scan α} {write : α → Bytes} {fits : α → Prop}
    (h : Reads scan write fits) : IsExact write (read? scan) fits := by
  have hfree : ∀ a b, fits a → fits b → write a <+: write b → a = b := by
    intro a b ha hb hab
    have hread : read? scan (write b) = some a := h.read?_eq_some.mpr ⟨ha, hab⟩
    rw [h.read?_eq_some.mpr ⟨hb, List.prefix_rfl⟩] at hread
    exact (Option.some.inj hread).symm
  refine ⟨?_, fun bs a => h.read?_eq_some.mp, hfree, ?_⟩
  · intro a ha rest
    exact h.read?_eq_some.mpr ⟨ha, List.prefix_append _ _⟩
  · intro a ha bs hbs hne
    rw [Option.eq_none_iff_forall_ne_some]
    intro b hread
    -- whatever was read would be written at the front of the form that was cut
    obtain ⟨hb, hpre⟩ := h.read?_eq_some.mp hread
    obtain rfl := hfree b a hb ha (hpre.trans hbs)
    exact hne (hbs.eq_of_length_le hpre.length_le)

/-- **The binary form of every envelope is exact.** -/
theorem isExact_envelopes :
    IsExact Request.toBytes Request.ofBytes? Request.Fits ∧
      IsExact Response.toBytes Response.ofBytes? Response.Fits ∧
      IsExact StreamMessage.toBytes StreamMessage.ofBytes? StreamMessage.Fits ∧
      IsExact DelegateMessage.toBytes DelegateMessage.ofBytes? DelegateMessage.Fits :=
  ⟨Request.reads_scan.isExact, Response.reads_scan.isExact, StreamMessage.reads_scan.isExact,
    DelegateMessage.reads_scan.isExact⟩

end Wire
end ControlPlane
