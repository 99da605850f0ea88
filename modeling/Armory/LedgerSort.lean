import Armory.Types
import Mathlib.Data.List.Sort

/-!
Python's `combinedLedger.sort(key=lambda x: x[1], reverse=True)`. Python's sort is stable and
`reverse=True` keeps that stability, so the result puts larger entries first and keeps pairs
whose entries compare equal in the order they came. Insertion sort on "not below" computes it.
Two facts fix the result: it is sorted, and the pairs of each ordering key keep their order.
-/

namespace Armory.LedgerSort
open Armory.Types

/-- Pair `a` may stand before pair `b` in the reverse sort: `a`'s entry is not below `b`'s. -/
def notBelow (a b : WalletID × LedgerEntry) : Prop := ¬a.2.lt b.2

instance : DecidableRel notBelow := fun a b => inferInstanceAs (Decidable (¬a.2.lt b.2))

instance : IsTotal (WalletID × LedgerEntry) notBelow :=
  ⟨fun a b => by simp only [notBelow, LedgerEntry.lt]; omega⟩

instance : IsTrans (WalletID × LedgerEntry) notBelow :=
  ⟨fun a b c => by simp only [notBelow, LedgerEntry.lt]; omega⟩

/-- `sort(key=lambda x: x[1], reverse=True)` on a list of (wallet ID, entry) pairs. -/
def sortByEntryReverse (pairs : List (WalletID × LedgerEntry)) : List (WalletID × LedgerEntry) :=
  pairs.insertionSort notBelow

/-- The pairs whose entry has ordering key `key`, in order. -/
def ofKey (key : Nat × Nat) (pairs : List (WalletID × LedgerEntry)) : List (WalletID × LedgerEntry) :=
  pairs.filter (·.2.key = key)

theorem sortByEntryReverse_perm (pairs : List (WalletID × LedgerEntry)) :
    (sortByEntryReverse pairs).Perm pairs :=
  List.perm_insertionSort _ _

theorem sortByEntryReverse_sorted (pairs : List (WalletID × LedgerEntry)) :
    (sortByEntryReverse pairs).Sorted notBelow :=
  List.sorted_insertionSort _ _

theorem notBelow_of_key_eq {a b : WalletID × LedgerEntry} (same : a.2.key = b.2.key) :
    notBelow a b :=
  ((LedgerEntry.key_eq_iff _ _).mp same).1

/-- Stability: the sort keeps the order of the pairs of each ordering key. -/
theorem ofKey_sortByEntryReverse (pairs : List (WalletID × LedgerEntry)) (key : Nat × Nat) :
    ofKey key (sortByEntryReverse pairs) = ofKey key pairs := by
  have tied : (ofKey key pairs).Pairwise notBelow :=
    List.Pairwise.imp_of_mem (fun {a b} first second _ => notBelow_of_key_eq <| by
      rw [of_decide_eq_true (List.mem_filter.mp first).2, of_decide_eq_true (List.mem_filter.mp second).2])
      (List.pairwise_of_forall fun _ _ => trivial)
  have kept : (ofKey key pairs).Sublist (ofKey key (sortByEntryReverse pairs)) := by
    have whole := List.sublist_insertionSort (r := notBelow) tied (List.filter_sublist pairs)
    simpa [ofKey, List.filter_filter] using whole.filter (·.2.key = key)
  exact (kept.eq_of_length ((sortByEntryReverse_perm pairs).filter _).length_eq.symm).symm

/-- Lists that agree key by key have the same members. -/
theorem mem_of_ofKey_eq {first second : List (WalletID × LedgerEntry)}
    (same : ∀ key, ofKey key first = ofKey key second) {x : WalletID × LedgerEntry}
    (member : x ∈ first) : x ∈ second :=
  List.mem_of_mem_filter (same x.2.key ▸ List.mem_filter.mpr ⟨member, by simp⟩ : x ∈ ofKey x.2.key second)

/-- The head of a sorted list is not below any of its members. -/
theorem notBelow_head {x y : WalletID × LedgerEntry} {tail : List (WalletID × LedgerEntry)}
    (sorted : (y :: tail).Sorted notBelow) (member : x ∈ y :: tail) : notBelow y x := by
  rcases List.mem_cons.mp member with rfl | later
  · simp [notBelow, LedgerEntry.lt]
  · exact List.rel_of_sorted_cons sorted x later

/-- Two sorted lists that agree key by key are equal. -/
theorem eq_of_sorted_of_ofKey :
    ∀ {first second : List (WalletID × LedgerEntry)}, first.Sorted notBelow →
      second.Sorted notBelow → (∀ key, ofKey key first = ofKey key second) → first = second
  | [], [], _, _, _ => rfl
  | [], b :: _, _, _, same => absurd (same b.2.key) (by simp [ofKey])
  | a :: _, [], _, _, same => absurd (same a.2.key) (by simp [ofKey])
  | a :: rest₁, b :: rest₂, sorted₁, sorted₂, same => by
    have keys : a.2.key = b.2.key := (LedgerEntry.key_eq_iff _ _).mpr
      ⟨notBelow_head sorted₁ (mem_of_ofKey_eq (fun key => (same key).symm) (List.mem_cons_self _ _)),
        notBelow_head sorted₂ (mem_of_ofKey_eq same (List.mem_cons_self _ _))⟩
    have atKey := same a.2.key
    simp only [ofKey, List.filter_cons, keys, decide_True, if_true, List.cons.injEq] at atKey
    have rest : ∀ key, ofKey key rest₁ = ofKey key rest₂ := by
      intro key
      by_cases hit : b.2.key = key
      · subst hit
        exact atKey.2
      · simpa [ofKey, List.filter_cons, keys, hit] using same key
    rw [atKey.1, eq_of_sorted_of_ofKey sorted₁.of_cons sorted₂.of_cons rest]

/-- Two inputs sort to the same list exactly when they agree key by key. -/
theorem sortByEntryReverse_eq_iff (first second : List (WalletID × LedgerEntry)) :
    sortByEntryReverse first = sortByEntryReverse second ↔ ∀ key, ofKey key first = ofKey key second := by
  constructor
  · intro same key
    rw [← ofKey_sortByEntryReverse first, same, ofKey_sortByEntryReverse]
  · intro same
    exact eq_of_sorted_of_ofKey (sortByEntryReverse_sorted first) (sortByEntryReverse_sorted second)
      fun key => by rw [ofKey_sortByEntryReverse, ofKey_sortByEntryReverse, same]

end Armory.LedgerSort
