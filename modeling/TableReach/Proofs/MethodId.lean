import TableReach.CallGraph.Convention
import TableReach.Proofs.Sql.TableName
import Mathlib.Data.Set.Operations

/-!
# Parts of an identifier

The class of an identifier is what stands before its first `#`.  Said without a
search: an identifier has some parts if it is written from them and the class
holds no `#`.  Such parts and the identifier determine each other.  A class name
may be qualified; its simple name is the longest end of it without a period.
-/

namespace TableReach
namespace MethodId

/-- The identifier is made of this class, which holds no `#`, and this method name; without `#` it
is a class alone. -/
def HasParts
    (id : MethodId)
    (className method : String) : Prop :=
  '#' ∉ className.toList ∧
    (id = ofParts className method ∨ (id = className ∧ method = ""))

/-- The parts of an identifier are the only ones it has. -/
theorem hasParts_iff
    {id : MethodId}
    {className method : String} :
    id.HasParts className method ↔ id.parts = (className, method) := by
  constructor
  · rintro ⟨plain, form⟩
    have kept : ∀ character ∈ className.toList, (character != '#') = true := by
      intro character present
      simp only [bne_iff_ne]
      intro equal
      exact plain (equal ▸ present)
    rcases form with rfl | ⟨rfl, rfl⟩
    · have written :
          (ofParts className method).toList = className.toList ++ '#' :: method.toList := by
        simp [ofParts]
      rw [parts, written, List.takeWhile_append_of_pos kept, List.dropWhile_append_of_pos kept]
      simp
    · rw [parts, List.takeWhile_eq_self_iff.mpr kept, List.dropWhile_eq_nil_iff.mpr kept]
      simp
  · intro equal
    rw [parts, Prod.mk.injEq] at equal
    obtain ⟨rfl, rfl⟩ := equal
    have split := List.takeWhile_append_dropWhile (p := (· != '#')) (l := id.toList)
    refine ⟨?_, ?_⟩
    · rw [String.toList_ofList]
      intro present
      simpa using List.mem_takeWhile_imp present
    · cases behind : id.toList.dropWhile (· != '#') with
      | nil =>
          right
          rw [behind, List.append_nil] at split
          rw [split]
          simp
      | cons character rest =>
          left
          have mark : character = '#' := by
            have first := List.head?_dropWhile_not (· != '#') id.toList
            rw [behind] at first
            simpa using first
          subst mark
          rw [behind] at split
          apply String.toList_inj.mp
          rw [ofParts, String.toList_append, String.toList_append, String.toList_ofList,
            String.toList_ofList]
          simpa using split.symm

theorem parts_ofParts_iff
    {className method : String} :
    (ofParts className method).parts = (className, method) ↔ '#' ∉ className.toList := by
  rw [← hasParts_iff]
  exact ⟨And.left, fun plain => ⟨plain, Or.inl rfl⟩⟩

/-- An identifier is written from its parts, with a `#` behind it if it holds none. -/
theorem ofParts_parts
    (id : MethodId) :
    ofParts id.parts.1 id.parts.2 = if '#' ∈ id.toList then id else id ++ "#" := by
  have itsParts : id.HasParts id.parts.1 id.parts.2 := hasParts_iff.mpr rfl
  obtain ⟨plain, written | ⟨alone, nothing⟩⟩ := itsParts
  · have present : '#' ∈ id.toList := by
      rw [written]
      simp [ofParts]
    rw [if_pos present]
    exact written.symm
  · rw [← alone] at plain ⊢
    rw [if_neg plain, nothing, ofParts, String.append_empty]

end MethodId

theorem isLongestEnd_simpleName
    (qualified : String) :
    Sql.IsLongestEnd '.' qualified.toList (simpleName qualified).toList := by
  rw [Sql.isLongestEnd_iff, simpleName, String.toList_ofList]

theorem simpleName_isSuffix
    (qualified : String) : (simpleName qualified).toList <:+ qualified.toList :=
  (isLongestEnd_simpleName qualified).isSuffix

theorem simpleName_of_notMem
    {name : String}
    (plain : '.' ∉ name.toList) : simpleName name = name := by
  rw [simpleName, Sql.afterLast_of_notMem plain, String.ofList_toList]

namespace MethodId

/-- Identifiers split back.  A class and a method name are the parts of their identifier exactly if
the class holds no `#`, so that two methods of such classes have the same identifier only if they
are the same.  Every identifier is written from its parts, with a `#` behind it if it holds none.
The simple name of a class is the longest end of its name without a period, and its own simple
name. -/
theorem identifiers_split_back :
    (∀ className method : String,
        (ofParts className method).parts = (className, method) ↔ '#' ∉ className.toList) ∧
      Set.InjOn (fun parts : String × String => ofParts parts.1 parts.2)
        {parts | '#' ∉ parts.1.toList} ∧
      (∀ id : MethodId,
        ofParts id.parts.1 id.parts.2 = if '#' ∈ id.toList then id else id ++ "#") ∧
      ∀ qualified : String,
        Sql.IsLongestEnd '.' qualified.toList (simpleName qualified).toList ∧
          simpleName (simpleName qualified) = simpleName qualified := by
  refine ⟨fun _ _ => parts_ofParts_iff, ?_, ofParts_parts, ?_⟩
  · intro first plainFirst second plainSecond same
    calc first
        = (ofParts first.1 first.2).parts := (parts_ofParts_iff.mpr plainFirst).symm
      _ = (ofParts second.1 second.2).parts := congrArg parts same
      _ = second := parts_ofParts_iff.mpr plainSecond
  · intro qualified
    have isLongest := isLongestEnd_simpleName qualified
    exact ⟨isLongest, simpleName_of_notMem isLongest.notMem⟩

/-- A `#` in a method name is given back, one in a class is not. -/
theorem mark_in_method_splits_back :
    '#' ∉ "Users".toList ∧ '#' ∉ "".toList ∧
      (ofParts "Users" "find#1").parts = ("Users", "find#1") ∧
      ofParts "" "Users#find" ≠ ofParts "Users" "find" ∧
      (ofParts "Users#find" "1").parts ≠ ("Users#find", "1") := by
  have plain : '#' ∉ "Users".toList := by
    decide
  have empty : '#' ∉ "".toList := by
    decide
  obtain ⟨splits, injective, -⟩ := identifiers_split_back
  refine ⟨plain, empty, (splits "Users" "find#1").mpr plain, ?_, ?_⟩
  · intro same
    have equal : (("", "Users#find") : String × String) = ("Users", "find") :=
      injective empty plain same
    exact absurd equal (by decide)
  · intro same
    exact absurd (by decide) ((splits "Users#find" "1").mp same)

end MethodId
end TableReach
