import GpuVirtmem.Lib.Codec

/-!
# Packets as sequences of fields

A packet as it is seen by a decoder that is given a pointer and no length: the bytes of each field
say where the next one begins. `Fits` is when the fields lie within the bytes that there are, and a
decoder that goes from field to field stays within these bytes exactly then (`Follows`). The
outcomes of the calls of `malloc` that the decoder makes, one for each field, are given.

A packet may be shorter than it says, and the decoder cannot know: it follows the lengths that it
finds. So there is no bound to check a decoder against but the packet itself, and the statement that
can be proved of every buffer is an equivalence: it stays within the bytes exactly where the fields
lie in them. `Spans` does the reading of one field, `Decodes` the choice that a field makes (on,
back to the caller, or out of the bytes), and `Follows` the packet; a new kind of field needs one
lemma of the second kind.
-/

namespace GpuVirtmem.Lib

/-- A field of a packet: `n` bytes; a string or another block, behind its length of `w` bytes; a
pointer, with `n` bytes behind it unless it is NULL. -/
inductive Field
  | fixed (n : Nat)
  | string (w : Nat)
  | block (w : Nat)
  | pointer (n : Nat)

/-- Where a decoder goes from a field: on, behind so many bytes; back to its caller, with an error
after so many bytes; nowhere, since it writes through the NULL that `malloc` has returned. -/
inductive Way
  | on (n : Nat)
  | error (n : Nat)
  | null

/-- The size of the field that the bytes begin with, as they say it. -/
def Field.size (src : Bytes) : Field → Nat
  | .fixed n => n
  | .string w | .block w => w + decodeLE (src.take w)
  | .pointer n => 8 + if decodeLE (src.take 8) = 0 then 0 else n

/-- The way from the field that the bytes begin with. Of a string without memory only the length is
read. -/
def Field.way (allocated : Bool) (src : Bytes) (f : Field) : Way :=
  if allocated then .on (f.size src)
  else
    match f with
    | .fixed n => .on n
    | .string w => .on w
    | .block _ => .null
    | .pointer _ => if decodeLE (src.take 8) = 0 then .on 8 else .error 8

/-- The fields lie within the bytes, as far as a decoder gets: `malloc i` is the outcome of the
call for field `i`. -/
def Fits (malloc : Nat → Bool) : Nat → List Field → Bytes → Prop
  | _, [], _ => True
  | i, f :: fs, src =>
    match f.way (malloc i) src with
    | .on n => n ≤ src.length ∧ Fits malloc (i + 1) fs (src.drop n)
    | .error n => n ≤ src.length
    | .null => False

/-- The size of all fields, as the bytes say it. -/
def fieldsSize : List Field → Bytes → Nat
  | [], _ => 0
  | f :: fs, src => f.size src + fieldsSize fs (src.drop (f.size src))

/-- With memory for all of them, the fields lie within the bytes where their sizes do. -/
theorem fits_iff_fieldsSize (i : Nat) (fs : List Field) (src : Bytes) :
    Fits (fun _ => true) i fs src ↔ fieldsSize fs src ≤ src.length := by
  induction fs generalizing i src with
  | nil => simp [Fits, fieldsSize]
  | cons f fs ih =>
    have hfits : Fits (fun _ => true) i (f :: fs) src ↔
        f.size src ≤ src.length ∧ Fits (fun _ => true) (i + 1) fs (src.drop (f.size src)) := Iff.rfl
    rw [hfits, ih, List.length_drop, fieldsSize]
    omega

namespace Reader

variable {α β γ : Type}

/-- The decoder returns with an error. -/
def fail (e : CFail) : Reader α := fun _ => .error e

/-- A sequence whose first decoder succeeds is its second one, on the bytes behind. -/
theorem bind_ok {r : Reader α} {k : α → Reader β} {src : Bytes} {a : α} {n : Nat}
    (h : r src = .ok (a, n)) :
    (r >>= k) src = match k a (src.drop n) with
      | .ok (b, m) => .ok (b, n + m)
      | .error e => .error e := by
  show Reader.bind r k src = _
  unfold Reader.bind
  generalize r src = x at h ⊢
  cases h
  rfl

/-- A sequence whose first decoder fails does not reach its second one. -/
theorem bind_error {r : Reader α} {k : α → Reader β} {src : Bytes} {e : CFail}
    (h : r src = .error e) : (r >>= k) src = .error e := by
  show Reader.bind r k src = _
  simp only [Reader.bind, h]

/-- Sequences may be bracketed as a proof needs them. The decoders are written as a chain, and the
rules take its first field off. -/
theorem bind_assoc (r : Reader α) (k : α → Reader β) (l : β → Reader γ) :
    (r >>= k) >>= l = r >>= fun a => k a >>= l := by
  funext src
  cases hr : r src with
  | error e => rw [bind_error (bind_error hr), bind_error hr]
  | ok p =>
    obtain ⟨a, n⟩ := p
    rw [bind_ok hr]
    cases hk : k a (src.drop n) with
    | error e =>
      have hrk : (r >>= k) src = .error e := by rw [bind_ok hr, hk]
      rw [bind_error hrk, bind_error hk]
    | ok q =>
      obtain ⟨b, m⟩ := q
      have hrk : (r >>= k) src = .ok (b, n + m) := by rw [bind_ok hr, hk]
      rw [bind_ok hrk, bind_ok hk, List.drop_drop]
      cases l b (src.drop (n + m)) with
      | error e => rfl
      | ok s => simp only [Nat.add_assoc]

theorem pure_bind (a : α) (k : α → Reader β) : (Pure.pure a >>= k : Reader β) = k a := by
  funext src
  have ha : (Pure.pure a : Reader α) src = .ok (a, 0) := rfl
  rw [bind_ok ha, List.drop_zero]
  cases k a src with
  | error e => rfl
  | ok p => simp

theorem bind_pure (r : Reader α) : r >>= Pure.pure = r := by
  funext src
  cases hr : r src with
  | error e => exact bind_error hr
  | ok p =>
    obtain ⟨a, n⟩ := p
    rw [bind_ok hr]
    rfl

/-- The bytes are decoded, or an error is reported. -/
def Completes (r : Reader α) (src : Bytes) : Prop :=
  (∃ a n, r src = .ok (a, n)) ∨ r src = .error .error

/-! ## Decoders of a known number of bytes -/

/-- The decoder takes as many bytes as `size` says of them, whatever they are. -/
def Spans (r : Reader α) (size : Bytes → Nat) : Prop :=
  ∀ src, size src ≤ src.length ∧ (∃ a, r src = .ok (a, size src)) ∨
    src.length < size src ∧ r src = .error .badAccess

theorem spans_pure (a : α) : Spans (Pure.pure a : Reader α) fun _ => 0 :=
  fun src => .inl ⟨Nat.zero_le src.length, a, rfl⟩

/-- `memcpy` takes what it is told to, whatever the bytes are. -/
theorem spans_take (n : Nat) : Spans (take n) fun _ => n := by
  intro src
  rcases Nat.lt_or_ge src.length n with hlt | hle
  · exact .inr ⟨hlt, if_neg (Nat.not_le.mpr hlt)⟩
  · exact .inl ⟨hle, src.take n, if_pos hle⟩

theorem spans_block (n : Nat) : Spans (block n) fun _ => n := by
  intro src
  unfold block
  split
  · next hle => exact .inl ⟨hle, _, rfl⟩
  · next hnot => exact .inr ⟨Nat.not_le.mp hnot, rfl⟩

/-- One decoder after another, where the value of the first says what the second takes. -/
theorem Spans.bind {r : Reader α} {k : α → Reader β} {n : Nat} {m : α → Nat} {size : Bytes → Nat}
    (h : Spans r fun _ => n) (hk : ∀ a, Spans (k a) fun _ => m a)
    (hsize : ∀ src a, r src = .ok (a, n) → size src = n + m a)
    (hshort : ∀ src, src.length < n → src.length < size src) : Spans (r >>= k) size := by
  intro src
  rcases h src with ⟨hle, a, hr⟩ | ⟨hlt, hr⟩
  · have hlen : (src.drop n).length = src.length - n := List.length_drop
    rw [bind_ok hr, hsize src a hr]
    rcases hk a (src.drop n) with ⟨hle', b, hb⟩ | ⟨hlt', hb⟩
    · left
      rw [hb]
      dsimp only at hle hle'
      exact ⟨by omega, b, rfl⟩
    · right
      rw [hb]
      dsimp only at hle hlt'
      exact ⟨by omega, rfl⟩
  · exact .inr ⟨hshort src hlt, bind_error hr⟩

/-- One decoder after another, each with its number of bytes. -/
theorem Spans.seq {r : Reader α} {k : α → Reader β} {n m : Nat} (h : Spans r fun _ => n)
    (hk : ∀ a, Spans (k a) fun _ => m) : Spans (r >>= k) fun _ => n + m :=
  h.bind hk (fun _ _ _ => rfl) fun _ hlt => Nat.lt_add_right m hlt

/-- A number takes its width. -/
theorem spans_number (w : Nat) : Spans (number w) fun _ => w :=
  (spans_take w).seq fun bs => spans_pure (decodeLE bs)

theorem spans_u32 : Spans u32 fun _ => 4 :=
  (spans_number 4).seq fun n => spans_pure (UInt32.ofNat n)

theorem spans_u64 : Spans u64 fun _ => 8 :=
  (spans_number 8).seq fun n => spans_pure (UInt64.ofNat n)

/-- A number that has been read is that of the bytes in front. -/
theorem number_eq_ok {w n m : Nat} {src : Bytes} (h : number w src = .ok (n, m)) :
    n = decodeLE (src.take w) := by
  rcases Nat.lt_or_ge src.length w with hlt | hle
  · have hbad : take w src = .error .badAccess := if_neg (Nat.not_le.mpr hlt)
    rw [show number w src = .error .badAccess from bind_error hbad] at h
    cases h
  · have hok : take w src = .ok (src.take w, w) := if_pos hle
    rw [show number w src = .ok (decodeLE (src.take w), w) from bind_ok hok] at h
    cases h
    rfl

/-- A number, and as many bytes as it says. -/
theorem spans_number_bind {w : Nat} {k : Nat → Reader β} {m : Nat → Nat}
    (hk : ∀ n, Spans (k n) fun _ => m n) :
    Spans (number w >>= k) fun src => w + m (decodeLE (src.take w)) := by
  apply (spans_number w).bind hk
  · intro src n h
    rw [number_eq_ok h]
  · intro src hlt
    exact Nat.lt_add_right _ hlt

/-! ## Decoders of fields and of packets -/

/-- The decoder takes the way from the field that the bytes begin with, unless that leads out of
them. -/
def Decodes (r : Reader α) (allocated : Bool) (f : Field) : Prop :=
  ∀ src, match f.way allocated src with
    | .on n =>
      n ≤ src.length ∧ (∃ a, r src = .ok (a, n)) ∨ src.length < n ∧ r src = .error .badAccess
    | .error n =>
      n ≤ src.length ∧ r src = .error .error ∨ src.length < n ∧ r src = .error .badAccess
    | .null => r src = .error .badAccess

/-- The decoder completes exactly where the fields lie within the bytes. -/
def Follows (r : Reader α) (malloc : Nat → Bool) (i : Nat) (fs : List Field) : Prop :=
  ∀ src, r.Completes src ↔ Fits malloc i fs src

/-- Where the way from a field leads on, it is enough to know how many bytes are taken. -/
theorem Spans.decodes {r : Reader α} {allocated : Bool} {f : Field} {size : Bytes → Nat}
    (h : Spans r size) (hway : ∀ src, f.way allocated src = .on (size src)) :
    Decodes r allocated f := by
  intro src
  rw [hway src]
  exact h src

/-- Memory has no part in a field of a fixed number of bytes. -/
theorem Spans.decodes_fixed {r : Reader α} {n : Nat} (h : Spans r fun _ => n) (allocated : Bool) :
    Decodes r allocated (.fixed n) := by
  apply h.decodes
  intro src
  cases allocated <;> rfl

/-- A packet without fields lies within any bytes. -/
theorem follows_pure (a : α) (malloc : Nat → Bool) (i : Nat) :
    Follows (Pure.pure a) malloc i [] :=
  fun _ => iff_of_true (.inl ⟨a, 0, rfl⟩) trivial

/-- A field, then the rest of the packet. -/
theorem Decodes.bind {r : Reader α} {k : α → Reader β} {malloc : Nat → Bool} {i : Nat} {f : Field}
    {fs : List Field} (h : Decodes r (malloc i) f) (hk : ∀ a, Follows (k a) malloc (i + 1) fs) :
    Follows (r >>= k) malloc i (f :: fs) := by
  intro src
  have hr := h src
  unfold Fits
  cases hway : f.way (malloc i) src with
  | on n =>
    rw [hway] at hr
    rcases hr with ⟨hle, a, hr⟩ | ⟨hlt, hr⟩
    · dsimp only
      rw [← hk a (src.drop n)]
      unfold Completes
      rw [bind_ok hr]
      cases k a (src.drop n) with
      | ok p =>
        obtain ⟨b, m⟩ := p
        simp [hle]
      | error e => simp [hle]
    · simp [Completes, bind_error hr, hlt]
  | error n =>
    rw [hway] at hr
    rcases hr with ⟨hle, hr⟩ | ⟨hlt, hr⟩
    · simp [Completes, bind_error hr, hle]
    · simp [Completes, bind_error hr, hlt]
  | null =>
    rw [hway] at hr
    dsimp only at hr
    simp [Completes, bind_error hr]

end Reader

end GpuVirtmem.Lib
