import Mathlib.Data.List.Induction
import Mathlib.Data.List.Nodup
import Mathlib.Logic.Function.Basic

/-!
# Lists as maps

A list whose members have distinct keys represents a map. Members may be appended, replaced and
removed in any order, also by `removeFast`, which puts the last member where the removed one was;
a search through the members finds what the map holds, wherever at most one member can match.

The representation is up to the order of the members, since `removeFast` does not keep it, and up to
nothing else: `Represents` fixes the members of the list as a set. A search by key therefore gives
one answer in every order. Searches by something that is not a key need the promise that at most one
member matches, and for these the last lemmas say what is found with and without it.
-/

namespace GpuVirtmem.Lib

variable {α β γ κ : Type*}

/-- The member at `i` is replaced by the last one, and the last place is given up. -/
def removeFast (l : List α) (i : Nat) : List α :=
  match l.getLast? with
  | some a => (l.set i a).dropLast
  | none => []

/-- The list holds, under distinct keys, what the map does. -/
structure Represents (key : α → κ) (val : α → β) (l : List α) (map : κ → Option β) : Prop where
  nodup : (l.map key).Nodup
  mem : ∀ k b, map k = some b ↔ ∃ a ∈ l, key a = k ∧ val a = b

/-- A member in its place. -/
theorem exists_split {l : List α} {i : Nat} {a : α} (h : l[i]? = some a) :
    ∃ xs ys, l = xs ++ a :: ys ∧ xs.length = i := by
  obtain ⟨hi, rfl⟩ := List.getElem?_eq_some_iff.mp h
  refine ⟨l.take i, l.drop (i + 1), ?_, List.length_take_of_le (Nat.le_of_lt hi)⟩
  rw [List.getElem_cons_drop, List.take_append_drop]

/-- To put the last member in the place of one that is removed is, up to the order, to remove it. -/
theorem removeFast_perm (xs ys : List α) (a : α) :
    (removeFast (xs ++ a :: ys) xs.length).Perm (xs ++ ys) := by
  unfold removeFast
  rcases List.eq_nil_or_concat ys with rfl | ⟨zs, z, rfl⟩
  · simp
  · have hlast : (xs ++ a :: (zs ++ [z])).getLast? = some z := by
      rw [← List.cons_append, ← List.append_assoc, List.getLast?_concat]
    have hset : ((xs ++ a :: (zs ++ [z])).set xs.length z).dropLast = xs ++ z :: zs := by
      rw [List.set_append_right _ _ (Nat.le_refl _), Nat.sub_self, List.set_cons_zero]
      rw [← List.cons_append, ← List.append_assoc, List.dropLast_concat]
    simp only [List.concat_eq_append, hlast, hset]
    apply List.Perm.append_left
    exact (List.perm_append_singleton z zs).symm

namespace Represents

variable {key : α → κ} {val : α → β} {l l' xs ys : List α} {map : κ → Option β} {a b : α} {k : κ}

/-- The empty list represents the map that is nowhere defined. -/
theorem nil : Represents key val [] fun _ => none :=
  ⟨List.nodup_nil, fun _ _ => by simp⟩

/-- The order of the members is not part of what is represented. -/
theorem perm (h : Represents key val l map) (hp : l.Perm l') : Represents key val l' map := by
  refine ⟨(hp.map key).nodup h.nodup, fun k b => ?_⟩
  rw [h.mem]
  simp only [hp.mem_iff]

/-- Members with one key are the same. -/
theorem eq_of_key (h : Represents key val l map) (ha : a ∈ l) (hb : b ∈ l) (hk : key a = key b) :
    a = b :=
  List.inj_on_of_nodup_map h.nodup ha hb hk

/-- What a member says is what the map says of its key. -/
theorem val_of_mem (h : Represents key val l map) (ha : a ∈ l) : map (key a) = some (val a) :=
  (h.mem _ _).mpr ⟨a, ha, rfl, rfl⟩

variable [DecidableEq κ]

/-- A member in front, with a key that the map does not have yet. -/
theorem cons (h : Represents key val l map) (ha : map (key a) = none) :
    Represents key val (a :: l) (Function.update map (key a) (some (val a))) := by
  have hnew : ∀ b ∈ l, key b ≠ key a := by
    intro b hb hk
    rw [← hk, h.val_of_mem hb] at ha
    cases ha
  refine ⟨?_, fun k c => ?_⟩
  · rw [List.map_cons, List.nodup_cons]
    refine ⟨fun hmem => ?_, h.nodup⟩
    obtain ⟨b, hb, hk⟩ := List.mem_map.mp hmem
    exact hnew b hb hk
  · by_cases hk : k = key a
    · subst hk
      rw [Function.update_self]
      constructor
      · intro hc
        exact ⟨a, List.mem_cons_self, rfl, Option.some.inj hc⟩
      · rintro ⟨b, hb, hkb, rfl⟩
        rcases List.mem_cons.mp hb with rfl | hb
        · rfl
        · exact absurd hkb (hnew b hb)
    · rw [Function.update_of_ne hk, h.mem]
      constructor
      · rintro ⟨b, hb, hkb, hc⟩
        exact ⟨b, List.mem_cons_of_mem _ hb, hkb, hc⟩
      · rintro ⟨b, hb, hkb, hc⟩
        rcases List.mem_cons.mp hb with rfl | hb
        · exact absurd hkb.symm hk
        · exact ⟨b, hb, hkb, hc⟩

/-- The map without the key of the first member. -/
theorem tail (h : Represents key val (a :: l) map) :
    Represents key val l (Function.update map (key a) none) := by
  have hnodup := h.nodup
  rw [List.map_cons, List.nodup_cons] at hnodup
  refine ⟨hnodup.2, fun k c => ?_⟩
  by_cases hk : k = key a
  · subst hk
    rw [Function.update_self]
    apply iff_of_false (fun hc => nomatch hc)
    rintro ⟨b, hb, hkb, _⟩
    exact hnodup.1 (List.mem_map.mpr ⟨b, hb, hkb⟩)
  · rw [Function.update_of_ne hk, h.mem]
    constructor
    · rintro ⟨b, hb, hkb, hc⟩
      rcases List.mem_cons.mp hb with rfl | hb
      · exact absurd hkb.symm hk
      · exact ⟨b, hb, hkb, hc⟩
    · rintro ⟨b, hb, hkb, hc⟩
      exact ⟨b, List.mem_cons_of_mem _ hb, hkb, hc⟩

/-- A member with a new key is appended. -/
theorem append (h : Represents key val l map) (ha : map (key a) = none) :
    Represents key val (l ++ [a]) (Function.update map (key a) (some (val a))) :=
  (h.cons ha).perm (List.perm_append_singleton a l).symm

/-- A member is removed. -/
theorem erase (h : Represents key val (xs ++ a :: ys) map) :
    Represents key val (xs ++ ys) (Function.update map (key a) none) :=
  (h.perm List.perm_middle).tail

/-- A member is replaced by one with the same key. -/
theorem replace (h : Represents key val (xs ++ a :: ys) map) (hk : key b = key a) :
    Represents key val (xs ++ b :: ys) (Function.update map (key a) (some (val b))) := by
  have hcons := h.erase.cons (a := b) (by rw [hk, Function.update_self])
  rw [hk, Function.update_idem] at hcons
  exact hcons.perm List.perm_middle.symm

/-- The last member takes the place of one that is removed, whatever has been written over that one
before. -/
theorem removeFast (h : Represents key val (xs ++ a :: ys) map) (b : α) :
    Represents key val (Lib.removeFast (xs ++ b :: ys) xs.length)
      (Function.update map (key a) none) :=
  h.erase.perm (removeFast_perm xs ys b).symm

/-- A key of the map is found at the place of its member. -/
theorem findIdx (h : Represents key val l map) {c : β} (hk : map k = some c) :
    ∃ xs a ys, l = xs ++ a :: ys ∧ key a = k ∧ val a = c ∧
      l.findIdx? (fun a => key a == k) = some xs.length := by
  obtain ⟨a, ha, hka, hc⟩ := (h.mem k c).mp hk
  cases hf : l.findIdx? fun a => key a == k with
  | none =>
    have hnone := List.findIdx?_eq_none_iff.mp hf a ha
    simp [hka] at hnone
  | some i =>
    obtain ⟨hi, hkey, _⟩ := List.findIdx?_eq_some_iff_getElem.mp hf
    obtain ⟨xs, ys, hl, hlen⟩ := exists_split (List.getElem?_eq_getElem hi)
    rw [beq_iff_eq] at hkey
    have hsame : l[i] = a := h.eq_of_key (List.getElem_mem hi) ha (hkey.trans hka.symm)
    rw [hsame] at hl
    exact ⟨xs, a, ys, hl, hka, hc, congrArg some hlen.symm⟩

end Represents

/-! ## Searches that go on to the end -/

/-- The search keeps the last match. -/
def lastMatch (f : α → Option γ) (l : List α) : Option γ :=
  l.foldl (fun found a => (f a).or found) none

/-- The search goes on to the end, so that a match in the last member wins. -/
theorem lastMatch_concat (f : α → Option γ) (l : List α) (a : α) :
    lastMatch f (l ++ [a]) = (f a).or (lastMatch f l) := by
  unfold lastMatch
  rw [List.foldl_append]
  rfl

/-- It is the search for the first match from the other end. -/
theorem lastMatch_eq (f : α → Option γ) (l : List α) :
    lastMatch f l = l.reverse.findSome? f := by
  induction l using List.reverseRecOn with
  | nil => rfl
  | append_singleton l a ih =>
    rw [lastMatch_concat, List.reverse_append, List.reverse_singleton, List.singleton_append,
      List.findSome?_cons, ih]
    cases f a <;> rfl

/-- What the search that goes on finds is what some member has. -/
theorem mem_of_lastMatch {f : α → Option γ} {l : List α} {c : γ} (h : lastMatch f l = some c) :
    ∃ a ∈ l, f a = some c := by
  rw [lastMatch_eq] at h
  obtain ⟨a, ha, hfa⟩ := List.exists_of_findSome?_eq_some h
  exact ⟨a, List.mem_reverse.mp ha, hfa⟩

/-- It finds something exactly where some member matches, whichever of them it then returns. -/
theorem lastMatch_isSome {f : α → Option γ} {l : List α} :
    (lastMatch f l).isSome ↔ ∃ a ∈ l, (f a).isSome := by
  rw [lastMatch_eq, List.findSome?_isSome_iff]
  simp only [List.mem_reverse]

/-- Where at most one member can match, the search finds what some member has. -/
theorem findSome?_eq_some_iff_mem {f : α → Option γ} {l : List α} {c : γ}
    (hunique : ∀ a ∈ l, ∀ b ∈ l, (f a).isSome → (f b).isSome → f a = f b) :
    l.findSome? f = some c ↔ ∃ a ∈ l, f a = some c := by
  constructor
  · intro h
    obtain ⟨a, ha, hfa⟩ := List.exists_of_findSome?_eq_some h
    exact ⟨a, ha, hfa⟩
  · rintro ⟨a, ha, hfa⟩
    cases hl : l.findSome? f with
    | none =>
      rw [List.findSome?_eq_none_iff.mp hl a ha] at hfa
      cases hfa
    | some c' =>
      obtain ⟨b, hb, hfb⟩ := List.exists_of_findSome?_eq_some hl
      have hsame := hunique a ha b hb (by rw [hfa]; rfl) (by rw [hfb]; rfl)
      rw [hfa, hfb] at hsame
      exact hsame.symm

end GpuVirtmem.Lib
