import Mathlib.Data.List.Infix

/-!
# Texts that end by themselves

Texts written one after the other, without separators, can be told apart when
none of them begins another one of its kind.
-/

namespace SpatialPlatform.Lib

variable {α : Type*}

/-- No text of a kind is the beginning of another one. -/
def PrefixFree (p : List α → Prop) : Prop := ∀ a b, p a → p b → a <+: b → a = b

namespace PrefixFree

variable {p q : List α → Prop} {a b s t : List α}

/-- What is written first, and what follows it. -/
theorem append_inj (h : PrefixFree p) (ha : p a) (hb : p b) (heq : a ++ s = b ++ t) :
    a = b ∧ s = t := by
  have hab : a = b := by
    -- both begin the same text, so one of them begins the other
    have hprefix : a <+: b ++ t := ⟨s, heq⟩
    obtain hshort | hlong := List.prefix_or_prefix_of_prefix hprefix (List.prefix_append b t)
    · exact h a b ha hb hshort
    · exact (h b a hb ha hlong).symm
  subst hab
  exact ⟨rfl, List.append_cancel_left heq⟩

theorem append_eq_append_iff (h : PrefixFree p) (ha : p a) (hb : p b) :
    a ++ s = b ++ t ↔ a = b ∧ s = t :=
  ⟨h.append_inj ha hb, fun ⟨hab, hst⟩ => by rw [hab, hst]⟩

/-- A text of one kind and then one of another. -/
theorem seq (hp : PrefixFree p) (hq : PrefixFree q) :
    PrefixFree fun text => ∃ a b, p a ∧ q b ∧ text = a ++ b := by
  rintro _ _ ⟨a, b, ha, hb, rfl⟩ ⟨a', b', ha', hb', rfl⟩ ⟨rest, hrest⟩
  rw [List.append_assoc] at hrest
  obtain ⟨rfl, hrest'⟩ := hp.append_inj ha ha' hrest
  rw [hq b b' hb hb' ⟨rest, hrest'⟩]

/-- As many texts, one after the other. -/
theorem flatten_inj (h : PrefixFree p) {xs ys : List (List α)} (hxs : ∀ x ∈ xs, p x)
    (hys : ∀ y ∈ ys, p y) (hlength : xs.length = ys.length)
    (heq : xs.flatten ++ s = ys.flatten ++ t) : xs = ys ∧ s = t := by
  induction xs generalizing ys with
  | nil =>
    obtain rfl := List.length_eq_zero_iff.mp hlength.symm
    exact ⟨rfl, heq⟩
  | cons x xs ih =>
    obtain _ | ⟨y, ys⟩ := ys
    · cases hlength
    rw [List.forall_mem_cons] at hxs hys
    rw [List.flatten_cons, List.flatten_cons, List.append_assoc, List.append_assoc] at heq
    obtain ⟨rfl, hrest⟩ := h.append_inj hxs.1 hys.1 heq
    obtain ⟨rfl, hend⟩ := ih hxs.2 hys.2 (Nat.succ.inj hlength) hrest
    exact ⟨rfl, hend⟩

theorem replicate (h : PrefixFree p) (n : Nat) :
    PrefixFree fun text => ∃ xs : List (List α), xs.length = n ∧ (∀ x ∈ xs, p x) ∧ text = xs.flatten := by
  rintro _ _ ⟨xs, hn, hxs, rfl⟩ ⟨ys, hn', hys, rfl⟩ ⟨rest, hrest⟩
  have heq : xs.flatten ++ rest = ys.flatten ++ [] := by rw [hrest, List.append_nil]
  rw [(h.flatten_inj hxs hys (hn.trans hn'.symm) heq).1]

/-- Texts one after the other, up to something that begins with none of their kind. -/
theorem flatten_append_inj (h : PrefixFree p) {xs ys : List (List α)} (hxs : ∀ x ∈ xs, p x)
    (hys : ∀ y ∈ ys, p y) (hs : ∀ x, p x → ¬ x <+: s) (ht : ∀ x, p x → ¬ x <+: t)
    (heq : xs.flatten ++ s = ys.flatten ++ t) : xs = ys ∧ s = t := by
  induction xs generalizing ys with
  | nil =>
    obtain _ | ⟨y, ys⟩ := ys
    · exact ⟨rfl, heq⟩
    · rw [List.flatten_cons, List.append_assoc] at heq
      exact absurd ⟨_, heq.symm⟩ (hs y (hys y List.mem_cons_self))
  | cons x xs ih =>
    rw [List.flatten_cons, List.append_assoc] at heq
    rw [List.forall_mem_cons] at hxs
    obtain _ | ⟨y, ys⟩ := ys
    · exact absurd ⟨_, heq⟩ (ht x hxs.1)
    rw [List.forall_mem_cons] at hys
    rw [List.flatten_cons, List.append_assoc] at heq
    obtain ⟨rfl, hrest⟩ := h.append_inj hxs.1 hys.1 heq
    obtain ⟨rfl, hend⟩ := ih hxs.2 hys.2 hrest
    exact ⟨rfl, hend⟩

end PrefixFree

end SpatialPlatform.Lib
