import GpuVirtmem.Lib.CString
import GpuVirtmem.Lib.LittleEndian

/-!
# Decoders written as C functions

A decoder is called on a pointer; it returns a value and reports how many bytes it has read, and its
caller moves on by what it reports. That is `Reader`: bytes from the pointer on, to a value and an
offset, or to one of the ways in which a C function fails. The two need not agree; `Reads` says that
on a given encoding they do, whatever follows it, and composes along a sequence of decoders.

The distinction between what is read and what is reported is the point of the module: a C decoder
returns its value and a count by two separate ways, and a slip in the count makes the caller go on
from a wrong place although the value is right. `Spends` allows any count, `Reports` asks for the
right one and `Yields` says nothing about it. A decoder that only `Yields` can still be the last one
of a sequence, and `Reads.bind_spends` is the rule for that.
-/

namespace GpuVirtmem.Lib

/-- How a C function fails: it reports an error, an assertion of its fails, or it reads or writes
outside a block. -/
inductive CFail
  | error | assertFailed | badAccess
  deriving DecidableEq, Repr

/-- A sequence succeeds where both parts do. With it a run that has succeeded is taken apart step by
step instead of being unfolded. -/
theorem except_bind_eq_ok {α β : Type} {x : Except CFail α} {f : α → Except CFail β} {b : β} :
    (x >>= f) = .ok b ↔ ∃ a, x = .ok a ∧ f a = .ok b := by
  cases x with
  | error e => simp [bind, Except.bind]
  | ok a => simp [bind, Except.bind]

/-- A decoder: a value, and the number of bytes it reports to have read. -/
def Reader (α : Type) := Bytes → Except CFail (α × Nat)

namespace Reader

variable {α β : Type}

/-- No byte is read. -/
def pure (a : α) : Reader α := fun _ => .ok (a, 0)

/-- The second decoder starts where the first one reports to have stopped. -/
def bind (r : Reader α) (k : α → Reader β) : Reader β := fun src =>
  match r src with
  | .ok (a, n) =>
    match k a (src.drop n) with
    | .ok (b, m) => .ok (b, n + m)
    | .error e => .error e
  | .error e => .error e

instance : Monad Reader where
  pure := pure
  bind := bind

/-- The value together with the offset the decoder reported. -/
def withOffset (r : Reader α) : Reader (α × Nat) := fun src =>
  match r src with
  | .ok (a, n) => .ok ((a, n), n)
  | .error e => .error e

/-- `memcpy` of the next `n` bytes. -/
def take (n : Nat) : Reader Bytes := fun src =>
  if n ≤ src.length then .ok (src.take n, n) else .error .badAccess

/-- `memcpy` of the next `n` bytes, with the proof that there are `n`. -/
def block (n : Nat) : Reader { bs : Bytes // bs.length = n } := fun src =>
  if h : n ≤ src.length then .ok (⟨src.take n, List.length_take_of_le h⟩, n)
  else .error .badAccess

/-- A little-endian number of `w` bytes. -/
def number (w : Nat) : Reader Nat := do
  let bs ← take w
  return decodeLE bs

/-- An `unsigned char`. -/
def u8 : Reader UInt8 := do
  let n ← number 1
  return .ofNat n

/-- An `unsigned short`. -/
def u16 : Reader UInt16 := do
  let n ← number 2
  return .ofNat n

/-- An `unsigned int`. -/
def u32 : Reader UInt32 := do
  let n ← number 4
  return .ofNat n

/-- An `unsigned long`. -/
def u64 : Reader UInt64 := do
  let n ← number 8
  return .ofNat n

/-- The decoder run `n` times. -/
def times (n : Nat) (r : Reader α) : Reader (List α) :=
  match n with
  | 0 => return []
  | n + 1 => do
    let a ← r
    let as ← times n r
    return a :: as

/-- Whatever follows them, the decoder takes the bytes `bs` for `a` and reports their number. -/
def Reads (r : Reader α) (bs : Bytes) (a : α) : Prop :=
  ∀ rest, r (bs ++ rest) = .ok (a, bs.length)

/-- Whatever follows them, the decoder takes the bytes `bs` for `a` and reports to have read `n`. -/
def Spends (r : Reader α) (bs : Bytes) (a : α) (n : Nat) : Prop :=
  ∀ rest, r (bs ++ rest) = .ok (a, n)

/-- Whatever follows the bytes `bs`, the decoder reports their number. -/
def Reports (r : Reader α) (bs : Bytes) : Prop :=
  ∀ rest, ∃ a, r (bs ++ rest) = .ok (a, bs.length)

/-- Whatever follows them, the decoder takes the bytes `bs` for `a`. -/
def Yields (r : Reader α) (bs : Bytes) (a : α) : Prop :=
  ∀ rest, ∃ n, r (bs ++ rest) = .ok (a, n)

theorem Reads.pure (a : α) : Reads (Pure.pure a : Reader α) [] a := fun _ => rfl

/-- The rule for sequences: the second decoder starts where the first one reports to have stopped,
which is where it has stopped. -/
theorem Reads.bind {r : Reader α} {k : α → Reader β} {bs bs' : Bytes} {a : α} {b : β}
    (h : Reads r bs a) (h' : Reads (k a) bs' b) : Reads (r >>= k) (bs ++ bs') b := by
  intro rest
  show Reader.bind r k (bs ++ bs' ++ rest) = _
  have hr := h (bs' ++ rest)
  have hk := h' rest
  simp only [Reader.bind, List.append_assoc, hr, List.drop_left, hk, List.length_append]

/-- A sequence reports wrongly by as much as its last decoder does. -/
theorem Reads.bind_spends {r : Reader α} {k : α → Reader β} {bs bs' : Bytes} {a : α} {b : β}
    {n : Nat} (h : Reads r bs a) (h' : Spends (k a) bs' b n) :
    Spends (r >>= k) (bs ++ bs') b (bs.length + n) := by
  intro rest
  have hr := h (bs' ++ rest)
  have hk := h' rest
  show Reader.bind r k (bs ++ bs' ++ rest) = _
  simp only [Reader.bind, List.append_assoc, hr, List.drop_left, hk]

/-- A decoder with nothing but a pure step after it. -/
theorem Reads.map {r : Reader α} {bs : Bytes} {a : α} (h : Reads r bs a) (f : α → β) :
    Reads (do let a ← r; return f a) bs (f a) := by
  have hb : Reads (r >>= fun a => Pure.pure (f a)) (bs ++ []) (f a) := h.bind (Reads.pure (f a))
  rwa [List.append_nil] at hb

theorem Spends.map {r : Reader α} {bs : Bytes} {a : α} {n : Nat} (h : Spends r bs a n)
    (f : α → β) : Spends (do let a ← r; return f a) bs (f a) n := by
  intro rest
  have hr := h rest
  show Reader.bind r _ (bs ++ rest) = _
  simp only [Reader.bind, hr]
  rfl

/-- The value does not depend on the count. -/
theorem Spends.yields {r : Reader α} {bs : Bytes} {a : α} {n : Nat} (h : Spends r bs a n) :
    Yields r bs a := fun rest => ⟨n, h rest⟩

/-- A decoder that is known to spend `n` bytes reports properly exactly when these are all its
bytes. -/
theorem Spends.reports_iff {r : Reader α} {bs : Bytes} {a : α} {n : Nat} (h : Spends r bs a n) :
    Reports r bs ↔ n = bs.length := by
  constructor
  · intro hr
    obtain ⟨a', ha'⟩ := hr []
    rw [h []] at ha'
    cases ha'
    rfl
  · rintro rfl rest
    exact ⟨a, h rest⟩

/-- A decoder that reads its encoding reports the length of it. -/
theorem Reads.reports {r : Reader α} {bs : Bytes} {a : α} (h : Reads r bs a) : Reports r bs :=
  fun rest => ⟨a, h rest⟩

theorem Reads.withOffset {r : Reader α} {bs : Bytes} {a : α} (h : Reads r bs a) :
    Reads r.withOffset bs (a, bs.length) := by
  intro rest
  have hr := h rest
  simp only [Reader.withOffset, hr]

/-- `memcpy` reads its bytes. -/
theorem reads_take (bs : Bytes) : Reads (take bs.length) bs bs := by
  intro rest
  have hle : bs.length ≤ (bs ++ rest).length := by
    rw [List.length_append]
    omega
  simp only [take, if_pos hle, List.take_left]

theorem reads_block {n : Nat} (bs : { bs : Bytes // bs.length = n }) :
    Reads (block n) bs.val bs := by
  obtain ⟨bs, rfl⟩ := bs
  intro rest
  have hle : bs.length ≤ (bs ++ rest).length := by
    rw [List.length_append]
    omega
  simp only [block, dif_pos hle, List.take_left]

/-- A number that fits its width is read back. -/
theorem reads_number {w n : Nat} (h : n < 256 ^ w) : Reads (number w) (encodeLE w n) n := by
  have hr := (reads_take (encodeLE w n)).map decodeLE
  rwa [decodeLE_encodeLE h, encodeLE_length] at hr

theorem reads_u8 (x : UInt8) : Reads u8 (encodeLE 1 x.toNat) x := by
  have hr := (reads_number (w := 1) x.toNat_lt).map UInt8.ofNat
  rwa [UInt8.ofNat_toNat] at hr

theorem reads_u16 (x : UInt16) : Reads u16 (encodeLE 2 x.toNat) x := by
  have hr := (reads_number (w := 2) x.toNat_lt).map UInt16.ofNat
  rwa [UInt16.ofNat_toNat] at hr

theorem reads_u32 (x : UInt32) : Reads u32 (encodeLE 4 x.toNat) x := by
  have hr := (reads_number (w := 4) x.toNat_lt).map UInt32.ofNat
  rwa [UInt32.ofNat_toNat] at hr

theorem reads_u64 (x : UInt64) : Reads u64 (encodeLE 8 x.toNat) x := by
  have hr := (reads_number (w := 8) x.toNat_lt).map UInt64.ofNat
  rwa [UInt64.ofNat_toNat] at hr

/-- A table is read entry by entry. -/
theorem reads_times {r : Reader β} {encode : α → Bytes} {decode : α → β} {l : List α}
    (h : ∀ a ∈ l, Reads r (encode a) (decode a)) :
    Reads (times l.length r) (l.flatMap encode) (l.map decode) := by
  induction l with
  | nil => exact Reads.pure []
  | cons a l ih =>
    have hl := ih fun b hb => h b (.tail a hb)
    exact (h a (.head l)).bind (hl.map (decode a :: ·))

/-- A sequence of decoders that has succeeded, taken apart into its two runs. -/
theorem bind_eq_ok {r : Reader α} {k : α → Reader β} {bs : Bytes} {b : β} {n : Nat}
    (h : (r >>= k) bs = .ok (b, n)) :
    ∃ a m m', r bs = .ok (a, m) ∧ k a (bs.drop m) = .ok (b, m') ∧ n = m + m' := by
  have h : Reader.bind r k bs = .ok (b, n) := h
  unfold Reader.bind at h
  split at h
  · next a m hr =>
    split at h
    · next b' m' hk =>
      cases h
      exact ⟨a, m, m', hr, hk, rfl⟩
    · cases h
  · cases h

/-- The decoder takes nothing but encodings, and reports their length. -/
def Only (r : Reader β) (encode : β → Bytes) : Prop :=
  ∀ {bs : Bytes} {b : β} {n : Nat}, r bs = .ok (b, n) → n = (encode b).length ∧ encode b <+: bs

/-- A number takes nothing but its four bytes. -/
theorem only_u32 : Only u32 fun i => encodeLE 4 i.toNat := by
  intro bs i n h
  obtain ⟨v, m, _, hnumber, hi, rfl⟩ := bind_eq_ok h
  cases hi
  obtain ⟨word, m', _, htake, hv, rfl⟩ := bind_eq_ok hnumber
  cases hv
  unfold take at htake
  split at htake
  · next hle =>
    cases htake
    have hlen : (bs.take 4).length = 4 := List.length_take_of_le hle
    have hlt := decodeLE_lt (bs.take 4)
    have hword := encodeLE_decodeLE (bs.take 4)
    rw [hlen] at hlt hword
    have hnat : (UInt32.ofNat (decodeLE (bs.take 4))).toNat = decodeLE (bs.take 4) :=
      UInt32.toNat_ofNat_of_lt hlt
    dsimp only
    rw [hnat, hword, hlen]
    exact ⟨rfl, List.take_prefix ..⟩
  · cases htake

/-- A table that has been decoded begins with the encodings of its entries, so that a corrupt table
is never read in part: either all of it is there or there is no result. -/
theorem Only.times {r : Reader β} {encode : β → Bytes} (hr : Only r encode) {bs : Bytes}
    {l : List β} {k n : Nat} (h : times k r bs = .ok (l, n)) :
    l.length = k ∧ l.flatMap encode <+: bs := by
  induction k generalizing bs l n with
  | zero =>
    cases h
    exact ⟨rfl, List.nil_prefix⟩
  | succ k ih =>
    obtain ⟨b, m, m', hb, hrest, -⟩ := bind_eq_ok h
    obtain ⟨l', m₁, m₂, hl, hpure, -⟩ := bind_eq_ok hrest
    cases hpure
    obtain ⟨rfl, hfirst⟩ := hr hb
    obtain ⟨rfl, hothers⟩ := ih hl
    refine ⟨rfl, ?_⟩
    obtain ⟨rest, rfl⟩ := hfirst
    rw [List.drop_left] at hothers
    rw [List.flatMap_cons]
    exact (List.prefix_append_right_inj _).mpr hothers

end Reader

/-- As many entries as a scan goes through are the entries it goes through. -/
theorem take_length_takeWhile {α : Type} (p : α → Bool) (l : List α) :
    l.take (l.takeWhile p).length = l.takeWhile p :=
  (List.prefix_iff_eq_take.mp (List.takeWhile_prefix p)).symm

/-- The entries of a table up to the first that ends it; a table that no entry ends is left. -/
def scanTable {α : Type} (more : α → Bool) (table : List α) : Except CFail (List α) :=
  if table.all more then .error .badAccess else .ok (table.takeWhile more)

/-- A scan that ends has gone through the entries in front of the first terminator. -/
theorem scanTable_eq_ok {α : Type} {more : α → Bool} {table entries : List α}
    (h : scanTable more table = .ok entries) :
    entries = table.takeWhile more ∧ table.take entries.length = entries := by
  unfold scanTable at h
  split at h
  · cases h
  · cases h
    exact ⟨rfl, take_length_takeWhile more table⟩

/-- In front of a terminator the scan reaches all entries that do not end it themselves. -/
theorem length_takeWhile_terminated {α : Type} {more : α → Bool} {null : α}
    (hnull : more null = false) (l : List α) :
    ((l ++ [null]).takeWhile more).length = l.length ↔ ∀ a ∈ l, more a = true := by
  induction l with
  | nil => simp [hnull]
  | cons a l ih =>
    rw [List.cons_append, List.takeWhile_cons, List.forall_mem_cons]
    split
    · next ha => simp only [List.length_cons, Nat.add_right_cancel_iff, ih, ha, true_and]
    · next ha => simp [ha]

/-- What a scan leaves has nothing that it goes through if no such entry stands behind another. -/
theorem dropWhile_pairwise {α : Type} (p : α → Prop) [DecidablePred p] (l : List α) :
    (∀ a ∈ l.dropWhile (p ·), ¬p a) ↔ l.Pairwise fun a b => p b → p a := by
  induction l with
  | nil => simp
  | cons a l ih =>
    rw [List.pairwise_cons]
    by_cases ha : p a
    · rw [List.dropWhile_cons_of_pos (by simpa using ha), ih]
      exact ⟨fun h => ⟨fun _ _ _ => ha, h⟩, And.right⟩
    · rw [List.dropWhile_cons_of_neg (by simpa using ha), List.forall_mem_cons]
      constructor
      · rintro ⟨-, hl⟩
        exact ⟨fun b hb h => absurd h (hl b hb),
          List.pairwise_of_forall_mem_list fun b _ c hc h => absurd h (hl c hc)⟩
      · rintro ⟨hl, -⟩
        exact ⟨ha, fun b hb h => ha (hl b hb h)⟩

/-- A table with a terminator at its end is never left by a scan. -/
theorem scanTable_terminated {α : Type} {more : α → Bool} {null : α} (hnull : more null = false)
    (l : List α) : scanTable more (l ++ [null]) = .ok ((l ++ [null]).takeWhile more) := by
  refine if_neg ?_
  simp [hnull]

/-- A list mapped by a function that fails where `g` does not say what it gives. -/
theorem mapM_eq_ok {α β : Type} {f : α → Except CFail β} {g : α → β}
    (hg : ∀ a b, f a = .ok b → b = g a) {l : List α} {bs : List β} (h : l.mapM f = .ok bs) :
    bs = l.map g ∧ ∀ a ∈ l, f a = .ok (g a) := by
  induction l generalizing bs with
  | nil =>
    cases h
    exact ⟨rfl, fun _ h => nomatch h⟩
  | cons a l ih =>
    rw [List.mapM_cons] at h
    obtain ⟨b, hb, h⟩ := except_bind_eq_ok.mp h
    obtain ⟨bs', hbs, h⟩ := except_bind_eq_ok.mp h
    cases h
    obtain ⟨rfl, hall⟩ := ih hbs
    obtain rfl := hg a b hb
    refine ⟨rfl, ?_⟩
    intro x hx
    rcases List.mem_cons.mp hx with rfl | hx
    · exact hb
    · exact hall x hx

/-- A map whose function never fails is a pure map. -/
theorem mapM_ok {α β : Type} {f : α → Except CFail β} {g : α → β} {l : List α}
    (h : ∀ a ∈ l, f a = .ok (g a)) : l.mapM f = .ok (l.map g) := by
  induction l with
  | nil => rfl
  | cons a l ih =>
    rw [List.mapM_cons, h a List.mem_cons_self, ih fun b hb => h b (List.mem_cons_of_mem a hb)]
    rfl

/-- A scan that asks for more ends where the other one does if all that it goes through meets what
it asks for. -/
theorem length_takeWhile_and {α : Type} (p q : α → Bool) (l : List α) :
    (l.takeWhile p).length = (l.takeWhile fun a => p a && q a).length ↔
      ∀ a ∈ l.takeWhile p, q a = true := by
  have hboth : l.takeWhile (fun a => p a && q a) = (l.takeWhile p).takeWhile q := by
    rw [List.takeWhile_takeWhile]
    congr 1
    funext a
    simp [Bool.and_comm]
  rw [hboth, ← List.takeWhile_eq_self_iff, eq_comm]
  constructor
  · exact (List.takeWhile_prefix q).eq_of_length
  · exact congrArg List.length

/-- An entry is no longer than the encoding of the whole table. The bound on a packet is by this
also one on each of its strings. -/
theorem length_le_length_flatMap {α : Type} {l : List α} {a : α} (h : a ∈ l) (f : α → Bytes) :
    (f a).length ≤ (l.flatMap f).length := by
  obtain ⟨before, after, rfl⟩ := List.append_of_mem h
  simp only [List.flatMap_append, List.flatMap_cons, List.length_append]
  omega

/-- Where no entry is empty, a table has no more entries than its encoding has bytes. -/
theorem length_le_of_flatMap {α : Type} {l : List α} {f : α → Bytes}
    (h : ∀ a, 0 < (f a).length) : l.length ≤ (l.flatMap f).length := by
  induction l with
  | nil => exact Nat.le_refl _
  | cons a l ih =>
    have ha := h a
    simp only [List.length_cons, List.flatMap_cons, List.length_append]
    omega

end GpuVirtmem.Lib
