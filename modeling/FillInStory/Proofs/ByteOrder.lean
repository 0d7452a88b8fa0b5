import FillInStory.Files.Name
import FillInStory.Proofs.Utf8
import Mathlib.Data.List.Perm.Basic

/-! # Names in byte order

Names are sorted by their bytes. Sorted names do not depend on the order in which they came, and names that are
sorted and without repeats are known by which names they are.
-/

namespace FillInStory

namespace FileName

theorem pairwise_mergeSort (names : List FileName) : (names.mergeSort le).Pairwise fun a b => le a b := by
  apply List.pairwise_mergeSort
  · exact fun _ _ _ => le_trans
  · exact le_total

/-- Sorted names do not depend on the order that they came in. -/
theorem mergeSort_eq_of_perm {names others : List FileName} (same : names.Perm others) :
    names.mergeSort le = others.mergeSort le :=
  List.Perm.eq_of_pairwise (fun _ _ _ _ => le_antisymm) (pairwise_mergeSort names) (pairwise_mergeSort others)
    ((List.mergeSort_perm _ _).trans (same.trans (List.mergeSort_perm _ _).symm))

end FileName

namespace Text

theorem pairwise_mergeSort (names : List Text) :
    (names.mergeSort fun a b => FileName.le (utf8 a) (utf8 b)).Pairwise fun a b =>
      FileName.le (utf8 a) (utf8 b) := by
  apply List.pairwise_mergeSort
  · exact fun _ _ _ => FileName.le_trans
  · exact fun _ _ => FileName.le_total _ _

/-- Names in byte order, each once, are known by which names they are. -/
theorem eq_of_sorted {names others : List Text}
    (first : names.Pairwise fun a b => FileName.le (utf8 a) (utf8 b) ∧ a ≠ b)
    (second : others.Pairwise fun a b => FileName.le (utf8 a) (utf8 b) ∧ a ≠ b)
    (same : ∀ name, name ∈ names ↔ name ∈ others) : names = others := by
  refine List.Perm.eq_of_pairwise ?_ (first.imp And.left) (second.imp And.left) ?_
  · exact fun _ _ _ _ le ge => utf8_injective (FileName.le_antisymm le ge)
  · exact (List.perm_ext_iff_of_nodup (first.imp And.right) (second.imp And.right)).mpr same

end Text

end FillInStory
