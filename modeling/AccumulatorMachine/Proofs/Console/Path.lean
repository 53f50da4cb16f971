import AccumulatorMachine.Console.Path
import AccumulatorMachine.Proofs.Text.Split

/-!
# Paths that end in a name

Most of what can be asked of a path is about its last component, and most paths
end in one that is a name: it is not empty, so that the path ends in no slash,
and it is neither the dot nor the two dots of a directory (`Path.NamesFile`).
The extension of such a path is what follows the last dot of the name, unless
nothing stands before that dot.

A path with another extension has the same components in front, and the name with
its extension exchanged (`Path.NamesFile.components_withExtension`). Only a name of
one dot and an extension is different, since the dot alone and the one of the
extension are the two dots of the directory above.
-/

namespace AccumulatorMachine

namespace Path

/-- **A path that ends in a name**, and the components in front of the name. -/
structure NamesFile (path : String) (around : List (List Char)) (name : List Char) : Prop where
  /-- The name is the last component. -/
  components : components path = around ++ [name]
  /-- It is not empty. -/
  ne_nil : name ≠ []
  /-- It does not stand for the directory itself. -/
  ne_dot : name ≠ ['.']
  /-- It does not stand for the directory above. -/
  ne_dots : name ≠ ['.', '.']

/-- A path is its components with slashes between them. -/
theorem toList_of_components {path : String} {around : List (List Char)} {name : List Char}
    (h : components path = around ++ [name]) :
    path.toList = around.flatMap (· ++ ['/']) ++ name :=
  (Text.splitOn_eq_concat_iff.mp h).2.2.symm

/-! ## Names and extensions -/

/-- A name without a dot is not split. -/
theorem splitName?_of_notMem {name : List Char} (h : '.' ∉ name) : splitName? name = none := by
  unfold splitName?
  rw [Text.splitOn_of_notMem h]
  rfl

/-- A name is split at its last dot, if there is something before it. -/
theorem splitName?_append {extension : List Char} (h : '.' ∉ extension) (stem : List Char) :
    splitName? (stem ++ '.' :: extension)
      = if stem = [] then none else some (stem, extension) := by
  have hjoin := Text.joinWith_splitOn '.' stem
  unfold splitName?
  rw [Text.splitOn_append_cons h, List.getLast?_concat, List.dropLast_concat]
  cases hparts : Text.splitOn '.' stem with
  | nil => exact absurd hparts (Text.splitOn_ne_nil '.' stem)
  | cons first others =>
    rw [hparts] at hjoin
    simp only [hjoin, List.isEmpty_iff]

/-- **The stem and the extension of a name** stand before and behind its last dot. -/
theorem splitName?_eq_some_iff {name stem extension : List Char} :
    splitName? name = some (stem, extension) ↔
      name = stem ++ '.' :: extension ∧ stem ≠ [] ∧ '.' ∉ extension := by
  constructor
  · intro h
    by_cases hdot : '.' ∈ name
    · obtain ⟨behind, front, hreverse, hlast⟩ :=
        List.eq_append_cons_of_mem (List.mem_reverse.mpr hdot)
      have hname : name = front.reverse ++ '.' :: behind.reverse := by
        rw [← List.reverse_reverse name, hreverse, List.reverse_append, List.reverse_cons,
          List.append_assoc]
        rfl
      have hbehind : '.' ∉ behind.reverse := mt List.mem_reverse.mp hlast
      rw [hname, splitName?_append hbehind] at h
      split at h
      · exact absurd h (by simp)
      · next hne =>
        obtain ⟨rfl, rfl⟩ := Prod.mk.inj (Option.some.inj h)
        exact ⟨hname, hne, hbehind⟩
    · rw [splitName?_of_notMem hdot] at h
      exact absurd h (by simp)
  · rintro ⟨rfl, hne, hnone⟩
    rw [splitName?_append hnone, if_neg hne]

/-! ## The last component -/

/-- A last component that names something is the file name, unless it is two dots. -/
theorem fileName?_of_components {path : String} {around : List (List Char)} {name : List Char}
    (h : components path = around ++ [name]) (hnil : name ≠ []) (hdot : name ≠ ['.']) :
    fileName? path = if name = ['.', '.'] then none else some name := by
  have hnamed : ([name].filter fun part => part != [] && part != ['.']) = [name] := by
    refine List.filter_cons_of_pos ?_
    rw [Bool.and_eq_true, bne_iff_ne, bne_iff_ne]
    exact ⟨hnil, hdot⟩
  unfold fileName?
  dsimp only
  rw [h, List.filter_append, hnamed, List.getLast?_concat]

/-- **The extension of a path** is what follows the last dot of its file name. -/
theorem extension?_eq_some_iff {path extension : String} :
    extension? path = some extension ↔
      ∃ stem, fileName? path = some (stem ++ '.' :: extension.toList) ∧ stem ≠ [] ∧
        '.' ∉ extension.toList := by
  unfold extension?
  constructor
  · intro h
    split at h
    · next stem old hsplit =>
      obtain rfl := Option.some.inj h
      obtain ⟨name, hname, hstem⟩ := Option.bind_eq_some_iff.mp hsplit
      obtain ⟨rfl, hne, hnone⟩ := splitName?_eq_some_iff.mp hstem
      rw [String.toList_ofList]
      exact ⟨stem, hname, hne, hnone⟩
    · exact absurd h (by simp)
  · rintro ⟨stem, hname, hstem⟩
    rw [hname, Option.bind_some, splitName?_eq_some_iff.mpr ⟨rfl, hstem⟩]
    exact congrArg some String.ofList_toList

/-- **A path that ends in no slash** has a last component that is not empty, if it has
any that is not. -/
theorem components_of_splitLast? {path : String} {around : List (List Char)} {name : List Char}
    (h : splitLast? path = some (around, name)) (hslash : endsInSlash path = false) :
    components path = around ++ [name] ∧ name ≠ [] := by
  obtain ⟨parts, last, hparts⟩ := Text.exists_splitOn_eq_concat '/' path.toList
  have hcomponents : (components path).reverse = last :: parts.reverse := by
    rw [← List.reverse_concat, ← hparts]
    rfl
  rw [splitLast?, hcomponents] at h
  cases last with
  | cons c rest =>
    -- the last component is found at once
    obtain ⟨rfl, rfl⟩ := Prod.mk.inj (Option.some.inj h)
    rw [List.reverse_reverse]
    exact ⟨hparts, List.cons_ne_nil c rest⟩
  | nil =>
    rcases List.eq_nil_or_concat parts with rfl | ⟨front, part, rfl⟩
    · exact absurd h (by simp)
    · -- an empty last component behind another one is a slash at the end
      have htext := toList_of_components hparts
      rw [List.append_nil, List.concat_eq_append, List.flatMap_append, List.flatMap_singleton,
        ← List.append_assoc] at htext
      unfold endsInSlash at hslash
      rw [htext, List.getLast?_concat] at hslash
      exact absurd hslash (by decide)

namespace NamesFile

variable {path : String} {around : List (List Char)} {name : List Char}

/-- The name holds no slash. -/
theorem slash_notMem (h : NamesFile path around name) : '/' ∉ name :=
  (Text.splitOn_eq_concat_iff.mp h.components).2.1

/-- The name is the file name. -/
theorem fileName?_eq (h : NamesFile path around name) : fileName? path = some name := by
  rw [fileName?_of_components h.components h.ne_nil h.ne_dot, if_neg h.ne_dots]

/-- A path whose name ends in an extension ends in it. -/
theorem eq_append {stem : List Char} {extension : String}
    (h : NamesFile path around (stem ++ '.' :: extension.toList)) :
    path = String.ofList (around.flatMap (· ++ ['/']) ++ stem) ++ ("." ++ extension) := by
  refine String.toList_inj.mp ?_
  rw [toList_of_components h.components, String.toList_append, String.toList_ofList,
    String.toList_append, List.append_assoc]
  rfl

/-- **The path with another extension** is the same up to the last dot of its name. -/
theorem toList_withExtension {stem old : List Char} (h : NamesFile path around (stem ++ '.' :: old))
    (hstem : stem ≠ []) (hold : '.' ∉ old) (extension : String) :
    (withExtension path extension).toList = around.flatMap (· ++ ['/']) ++
      (stem ++ '.' :: if stem = ['.'] then [] else extension.toList) := by
  have htext : path.toList = around.flatMap (· ++ ['/']) ++ (stem ++ ['.']) ++ old := by
    rw [toList_of_components h.components, List.append_assoc, List.append_assoc]
    rfl
  have hfront : path.toList.take (path.toList.length - old.length)
      = around.flatMap (· ++ ['/']) ++ (stem ++ ['.']) := by
    rw [htext]
    exact List.take_left' (Nat.sub_eq_of_eq_add List.length_append).symm
  unfold withExtension
  rw [h.fileName?_eq, Option.bind_some, splitName?_eq_some_iff.mpr ⟨rfl, hstem, hold⟩]
  dsimp only
  rw [hfront]
  split
  · rw [String.toList_ofList]
  · rw [String.toList_append, String.toList_ofList, List.append_assoc, List.append_assoc]
    rfl

/-- The components of the path with another extension, which holds no slash. -/
theorem components_withExtension {stem old : List Char} {extension : String}
    (h : NamesFile path around (stem ++ '.' :: old)) (hstem : stem ≠ []) (hold : '.' ∉ old)
    (hslash : '/' ∉ extension.toList) :
    Path.components (withExtension path extension) = around ++
      [stem ++ '.' :: if stem = ['.'] then [] else extension.toList] := by
  obtain ⟨haround, hname, -⟩ := Text.splitOn_eq_concat_iff.mp h.components
  rw [List.mem_append, List.mem_cons, not_or, not_or] at hname
  refine Text.splitOn_eq_concat_iff.mpr
    ⟨haround, ?_, (h.toList_withExtension hstem hold extension).symm⟩
  rw [List.mem_append, List.mem_cons, not_or, not_or]
  refine ⟨hname.1, by decide, ?_⟩
  split
  · exact List.not_mem_nil
  · exact hslash

end NamesFile

end Path

end AccumulatorMachine
