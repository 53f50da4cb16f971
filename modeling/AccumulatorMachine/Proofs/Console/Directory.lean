import AccumulatorMachine.Console.Directory
import AccumulatorMachine.Proofs.Console.Path

/-!
# Writing a file and reading it again

A path that ends in a name is followed to the directory around the name first, and
the name then only says which entry of that directory is meant
(`Directory.LeadsTo`). Reading and writing are about that one place: the content
of the file there, and the directory with another file stored there.

Storing a file makes no place a directory but those on the way to it, and the way
led through directories before. So whatever path could be followed still can, what
was written is read again (`Directory.read_of_write`), and a file of another name
beside it is read as before (`Directory.read_of_write_of_ne`).
-/

namespace AccumulatorMachine

namespace Directory

variable {directory : Directory}

/-! ## Storing -/

/-- A look at the first of the files. -/
theorem lookup_cons_eq (name : String) (content : List UInt8) (files : List (String × List UInt8))
    (path : String) :
    ((name, content) :: files).lookup path
      = if path = name then some content else files.lookup path := by
  rw [List.lookup_cons]
  by_cases hpath : path = name
  · rw [if_pos hpath, beq_iff_eq.mpr hpath]
  · rw [if_neg hpath, beq_eq_false_iff_ne.mpr hpath]

/-- Where a file is replaced, the others are found as before. -/
theorem lookup_map_replace (path : String) (content : List UInt8)
    (files : List (String × List UInt8)) (other : String) :
    (files.map fun file => if file.1 = path then (path, content) else file).lookup other
      = if other = path then (files.lookup other).map fun _ => content
        else files.lookup other := by
  induction files with
  | nil =>
    split <;> rfl
  | cons file files ih =>
    obtain ⟨name, old⟩ := file
    rw [List.map_cons, lookup_cons_eq name old files other]
    dsimp only
    by_cases hname : name = path
    · rw [if_pos hname, lookup_cons_eq, ih, hname]
      split <;> rfl
    · rw [if_neg hname, lookup_cons_eq, ih]
      by_cases hother : other = name
      · have hne : ¬ other = path := fun heq => hname (hother.symm.trans heq)
        rw [if_pos hother, if_neg hne, if_pos hother]
      · rw [if_neg hother, if_neg hother]

/-- **The files after one was stored** are that one and the others as they were. -/
theorem file?_store (directory : Directory) (path : String) (content : List UInt8)
    (other : String) :
    (directory.store path content).file? other
      = if other = path then some content else directory.file? other := by
  unfold store
  by_cases hold : (directory.file? path).isSome = true
  · obtain ⟨old, hfile⟩ := Option.isSome_iff_exists.mp hold
    rw [if_pos hold]
    show List.lookup other (directory.files.map _) = _
    rw [lookup_map_replace]
    split
    · next hother =>
      rw [hother, show directory.files.lookup path = some old from hfile]
      rfl
    · rfl
  · have hnone : directory.files.lookup path = none := Option.not_isSome_iff_eq_none.mp hold
    rw [if_neg hold]
    show List.lookup other (directory.files ++ [(path, content)]) = _
    rw [List.lookup_append, lookup_cons_eq]
    split
    · next hother =>
      rw [hother, hnone]
      rfl
    · exact Option.or_none

/-- The paths of the files after one was stored. -/
theorem mem_files_store_iff (directory : Directory) (path : String) (content : List UInt8)
    {other : String} :
    other ∈ (directory.store path content).files.map Prod.fst ↔
      other = path ∨ other ∈ directory.files.map Prod.fst := by
  unfold store
  by_cases hold : (directory.file? path).isSome = true
  · -- the file was there, and so was its path
    obtain ⟨file, hfile, heq⟩ := List.lookup_isSome_iff.mp hold
    have hpath : path ∈ directory.files.map Prod.fst :=
      List.mem_map.mpr ⟨file, hfile, (beq_iff_eq.mp heq).symm⟩
    have hsame : (Prod.fst ∘ fun file : String × List UInt8 =>
        if file.1 = path then (path, content) else file) = Prod.fst := by
      funext file
      dsimp only [Function.comp_apply]
      split
      · next h => exact h.symm
      · rfl
    rw [if_pos hold]
    show other ∈ List.map Prod.fst (directory.files.map _) ↔ _
    rw [List.map_map, hsame]
    exact ⟨Or.inr, fun h => h.elim (fun heq => heq ▸ hpath) id⟩
  · rw [if_neg hold]
    show other ∈ List.map Prod.fst (directory.files ++ [(path, content)]) ↔ _
    rw [List.map_append, List.mem_append, List.map_singleton, List.mem_singleton, or_comm]

/-- The places that are directories: those above, the root and those that files lie in. -/
theorem isFolder_iff {place : List (List Char)} :
    directory.isFolder place = true ↔
      (isAbove place || isRoot place) = true ∨
        ∃ path ∈ directory.files.map Prod.fst, (join place ++ "/").toList <+: path.toList := by
  unfold isFolder
  rw [Bool.or_eq_true, List.any_eq_true]
  refine or_congr_right ⟨fun ⟨file, hmem, h⟩ => ?_, fun ⟨path, hmem, h⟩ => ?_⟩
  · exact ⟨file.1, List.mem_map_of_mem hmem, List.isPrefixOf_iff_prefix.mp h⟩
  · obtain ⟨file, hfile, rfl⟩ := List.mem_map.mp hmem
    exact ⟨file, hfile, List.isPrefixOf_iff_prefix.mpr h⟩

/-- **The directories after a file was stored** are those that there were and those
that the file lies in. -/
theorem isFolder_store_iff (path : String) (content : List UInt8) {place : List (List Char)} :
    (directory.store path content).isFolder place = true ↔
      directory.isFolder place = true ∨ (join place ++ "/").toList <+: path.toList := by
  rw [isFolder_iff, isFolder_iff, or_assoc]
  simp only [mem_files_store_iff, or_and_right, exists_or, exists_eq_left]
  rw [or_comm (a := (join place ++ "/").toList <+: path.toList)]

/-! ## Following a path -/

/-- **Where a component leads** from a place, if its name is not too long. -/
def step? (here : List (List Char)) (part : List Char) : Option (List (List Char)) :=
  if part = [] ∨ part = ['.'] then some here
  else if part = ['.', '.'] then some (parent here)
  else if Text.byteLength part > Path.maxNameBytes then none
  else some (here ++ [part])

/-- **A path can be followed** if every component but the last leads to a directory;
which places it leads through is the same in all directories. -/
theorem follow_cons_eq_ok_iff {here place : List (List Char)} {part : List Char}
    {parts : List (List Char)} :
    directory.follow here (part :: parts) = .ok place ↔
      directory.isFolder here = true ∧
        ∃ next, step? here part = some next ∧ directory.follow next parts = .ok place := by
  rw [follow]
  unfold step?
  by_cases hfolder : directory.isFolder here = true
  · rw [if_pos hfolder, and_iff_right hfolder]
    split
    · simp
    · split
      · simp
      · split
        · simp
        · simp
  · rw [if_neg hfolder]
    refine iff_of_false ?_ fun h => hfolder h.1
    split <;> simp

/-- A path is followed up to its last component, and then from there. -/
theorem follow_concat_eq_ok_iff {here place : List (List Char)} {parts : List (List Char)}
    {last : List Char} :
    directory.follow here (parts ++ [last]) = .ok place ↔
      ∃ folder, directory.follow here parts = .ok folder ∧
        directory.isFolder folder = true ∧ step? folder last = some place := by
  induction parts generalizing here with
  | nil =>
    rw [List.nil_append, follow_cons_eq_ok_iff]
    simp only [follow, Except.ok.injEq, exists_eq_left', exists_eq_right]
  | cons part parts ih =>
    rw [List.cons_append, follow_cons_eq_ok_iff]
    simp only [ih, follow_cons_eq_ok_iff]
    constructor
    · rintro ⟨hhere, next, hnext, folder, hfollow, hlast⟩
      exact ⟨folder, ⟨hhere, next, hnext, hfollow⟩, hlast⟩
    · rintro ⟨folder, ⟨hhere, next, hnext, hfollow⟩, hlast⟩
      exact ⟨hhere, next, hnext, folder, hfollow, hlast⟩

/-- Where there are more directories, a path leads to the same place. -/
theorem follow_mono {other : Directory}
    (h : ∀ place, directory.isFolder place = true → other.isFolder place = true)
    {here place : List (List Char)} {parts : List (List Char)}
    (hfollow : directory.follow here parts = .ok place) : other.follow here parts = .ok place := by
  induction parts generalizing here with
  | nil => exact hfollow
  | cons part parts ih =>
    obtain ⟨hhere, next, hnext, hrest⟩ := follow_cons_eq_ok_iff.mp hfollow
    exact follow_cons_eq_ok_iff.mpr ⟨h here hhere, next, hnext, ih hrest⟩

/-- A path with something in front of its last component begins at the same place,
whatever that component is. -/
theorem exists_locate_eq (around : List (List Char)) :
    ∃ origin front, ∀ (directory : Directory) (last : List Char),
      directory.locate (around ++ [last]) = directory.follow origin (front ++ [last]) := by
  rcases around with _ | ⟨_ | ⟨c, first⟩, rest⟩
  · refine ⟨[], [], fun directory last => ?_⟩
    cases last <;> rfl
  · refine ⟨[[]], rest, fun directory last => ?_⟩
    cases rest <;> rfl
  · exact ⟨[], (c :: first) :: rest, fun _ _ => rfl⟩

/-- The directory that is around the last component of a path is a directory. -/
theorem isFolder_of_locate {around folder : List (List Char)}
    (h : directory.locate (around ++ [[]]) = .ok folder) : directory.isFolder folder = true := by
  obtain ⟨origin, front, hlocate⟩ := exists_locate_eq around
  rw [hlocate, follow_concat_eq_ok_iff] at h
  obtain ⟨place, -, hfolder, hstep⟩ := h
  obtain rfl : place = folder := Option.some.inj hstep
  exact hfolder

/-- **A path leads where its last component leads** from the directory around it. -/
theorem locate_concat_eq_ok_iff {around place : List (List Char)} {last : List Char} :
    directory.locate (around ++ [last]) = .ok place ↔
      ∃ folder, directory.locate (around ++ [[]]) = .ok folder ∧
        step? folder last = some place := by
  obtain ⟨origin, front, hlocate⟩ := exists_locate_eq around
  rw [hlocate, hlocate]
  simp only [follow_concat_eq_ok_iff]
  constructor
  · rintro ⟨folder, hfollow, hfolder, hstep⟩
    exact ⟨folder, ⟨folder, hfollow, hfolder, rfl⟩, hstep⟩
  · rintro ⟨folder, ⟨place, hfollow, hfolder, hsame⟩, hstep⟩
    obtain rfl : place = folder := Option.some.inj hsame
    exact ⟨place, hfollow, hfolder, hstep⟩

/-! ## Files -/

/-- **A path leads to an entry of a directory** that is no directory itself, whether a
file is there or not. -/
structure LeadsTo (directory : Directory) (path : String) (folder : List (List Char))
    (name : List Char) : Prop where
  /-- The path is not too long. -/
  size : path.utf8ByteSize ≤ Path.maxBytes
  /-- It ends in the name of the entry, and leads to the directory in front of that. -/
  around : ∃ around, Path.NamesFile path around name ∧
    directory.locate (around ++ [[]]) = .ok folder
  /-- The name is not too long. -/
  length : Text.byteLength name ≤ Path.maxNameBytes
  /-- No directory has that name. -/
  entry : directory.isFolder (folder ++ [name]) = false

/-- A name leads to the entry of that name. -/
theorem step?_name {name : List Char} (hnil : name ≠ []) (hdot : name ≠ ['.'])
    (hdots : name ≠ ['.', '.']) (here : List (List Char)) :
    step? here name
      = if Text.byteLength name > Path.maxNameBytes then none else some (here ++ [name]) := by
  unfold step?
  rw [if_neg (not_or.mpr ⟨hnil, hdot⟩), if_neg hdots]

/-- **What is read** on a path that leads to an entry is the file there. -/
theorem LeadsTo.read_eq {path : String} {folder : List (List Char)} {name : List Char}
    (h : directory.LeadsTo path folder name) :
    directory.read path =
      match directory.file? (join (folder ++ [name])) with
      | some content => .ok content
      | none => .error .notFound := by
  obtain ⟨around, hname, hfolder⟩ := h.around
  have hstep : step? folder name = some (folder ++ [name]) := by
    rw [step?_name hname.ne_nil hname.ne_dot hname.ne_dots, if_neg (Nat.not_lt.mpr h.length)]
  have hlocate : directory.locate (Path.components path) = .ok (folder ++ [name]) := by
    rw [hname.components]
    exact locate_concat_eq_ok_iff.mpr ⟨folder, hfolder, hstep⟩
  unfold read
  rw [if_neg (Nat.not_lt.mpr h.size), hlocate]
  dsimp only
  rw [h.entry]
  exact if_neg Bool.false_ne_true

/-- What it takes to read a file. -/
theorem read_eq_ok_iff {path : String} {content : List UInt8} :
    directory.read path = .ok content ↔
      path.utf8ByteSize ≤ Path.maxBytes ∧
        ∃ place, directory.locate (Path.components path) = .ok place ∧
          directory.isFolder place = false ∧ directory.file? (join place) = some content := by
  unfold read
  by_cases hsize : path.utf8ByteSize > Path.maxBytes
  · rw [if_pos hsize]
    exact iff_of_false (by simp) fun h => absurd h.1 (Nat.not_le.mpr hsize)
  · rw [if_neg hsize, and_iff_right (Nat.le_of_not_lt hsize)]
    cases directory.locate (Path.components path) with
    | error fault => simp
    | ok place =>
      dsimp only
      cases hfolder : directory.isFolder place with
      | true => simp [hfolder]
      | false =>
        cases hfile : directory.file? (join place) with
        | none => simp [hfile]
        | some found => simp [hfolder, hfile]

/-- **A path that can be read**, and that has a file name, leads to an entry. -/
theorem exists_leadsTo_of_read {path : String} {content : List UInt8}
    (hread : directory.read path = .ok content) {named : List Char}
    (hnamed : Path.fileName? path = some named) :
    ∃ folder name, directory.LeadsTo path folder name := by
  obtain ⟨hsize, place, hlocate, hentry, -⟩ := read_eq_ok_iff.mp hread
  obtain ⟨around, name, hcomponents⟩ := Text.exists_splitOn_eq_concat '/' path.toList
  rw [show Path.components path = around ++ [name] from hcomponents] at hlocate
  obtain ⟨folder, hfolder, hstep⟩ := locate_concat_eq_ok_iff.mp hlocate
  -- a path that ends in a slash or a dot leads to a directory, which cannot be read
  have hname : ¬ (name = [] ∨ name = ['.']) := by
    intro hhere
    unfold step? at hstep
    rw [if_pos hhere, Option.some.injEq] at hstep
    rw [← hstep, isFolder_of_locate hfolder] at hentry
    exact absurd hentry (by decide)
  obtain ⟨hnil, hdot⟩ := not_or.mp hname
  have hdots : name ≠ ['.', '.'] := by
    intro heq
    rw [Path.fileName?_of_components hcomponents hnil hdot, if_pos heq] at hnamed
    exact absurd hnamed (by simp)
  rw [step?_name hnil hdot hdots] at hstep
  split at hstep
  · exact absurd hstep (by simp)
  · next hlength =>
    obtain rfl := Option.some.inj hstep
    exact ⟨folder, name, hsize, ⟨around, ⟨hcomponents, hnil, hdot, hdots⟩, hfolder⟩,
      Nat.le_of_not_lt hlength, hentry⟩

/-- **A path that can be written** leads to an entry, and what is written is stored
there. -/
theorem exists_leadsTo_of_write {path : String} {content : List UInt8} {written : Directory}
    (hwrite : directory.write path content = .ok written) :
    ∃ folder name, directory.LeadsTo path folder name ∧
      written = directory.store (join (folder ++ [name])) content := by
  unfold write at hwrite
  split at hwrite
  · exact absurd hwrite (by simp)
  · next hsize =>
    split at hwrite
    · exact absurd hwrite (by simp)
    · next around name hsplit =>
      split at hwrite
      · exact absurd hwrite (by simp)
      · next folder hfolder =>
        split at hwrite
        · exact absurd hwrite (by simp)
        · next hplain =>
          rw [not_or, not_or, Bool.not_eq_true] at hplain
          obtain ⟨hslash, hdot, hdots⟩ := hplain
          obtain ⟨hcomponents, hnil⟩ := Path.components_of_splitLast? hsplit hslash
          unfold writeAt at hwrite
          split at hwrite
          · exact absurd hwrite (by simp)
          · next hlength =>
            split at hwrite
            · exact absurd hwrite (by simp)
            · next hentry =>
              exact ⟨folder, name, ⟨Nat.le_of_not_lt hsize,
                ⟨around, ⟨hcomponents, hnil, hdot, hdots⟩, hfolder⟩,
                Nat.le_of_not_lt hlength, Bool.eq_false_iff.mpr hentry⟩,
                (Except.ok.inj hwrite).symm⟩

/-- The path to an entry of a directory. -/
theorem toList_join_concat (folder : List (List Char)) (name : List Char) :
    (join (folder ++ [name])).toList = folder.flatMap (· ++ ['/']) ++ name := by
  unfold join
  rw [String.toList_ofList, Text.joinWith_concat]

/-- **A file stored beside an entry**, or there, leaves the way to it. -/
theorem LeadsTo.store {path : String} {folder : List (List Char)} {name other : List Char}
    (h : directory.LeadsTo path folder name) (hother : '/' ∉ other) (content : List UInt8) :
    (directory.store (join (folder ++ [other])) content).LeadsTo path folder name := by
  obtain ⟨around, hname, hfolder⟩ := h.around
  refine ⟨h.size, ⟨around, hname, ?_⟩, h.length, ?_⟩
  · obtain ⟨origin, front, hlocate⟩ := exists_locate_eq around
    rw [hlocate] at hfolder ⊢
    exact follow_mono (fun place hplace => (isFolder_store_iff _ _).mpr (Or.inl hplace)) hfolder
  · -- a file in the directory does not make another entry of it a directory
    refine Bool.eq_false_iff.mpr fun hentry => ?_
    rcases (isFolder_store_iff _ _).mp hentry with hentry | hfront
    · rw [h.entry] at hentry
      exact absurd hentry (by decide)
    · rw [String.toList_append, toList_join_concat, toList_join_concat, List.append_assoc,
        List.prefix_append_right_inj] at hfront
      exact hother (hfront.subset (List.mem_append_right name (List.mem_singleton_self '/')))

/-- **What was written is read again.** -/
theorem read_of_write {path : String} {content : List UInt8} {written : Directory}
    (hwrite : directory.write path content = .ok written) : written.read path = .ok content := by
  obtain ⟨folder, name, hleads, rfl⟩ := exists_leadsTo_of_write hwrite
  obtain ⟨around, hname, -⟩ := hleads.around
  rw [(hleads.store hname.slash_notMem content).read_eq, file?_store, if_pos rfl]

/-- What the path of an entry leads to is what its name and the directory around it say. -/
theorem LeadsTo.of_namesFile {path : String} {folder around : List (List Char)}
    {name named : List Char} (h : directory.LeadsTo path folder name)
    (hnamed : Path.NamesFile path around named) :
    named = name ∧ directory.locate (around ++ [[]]) = .ok folder := by
  obtain ⟨before, hname, hfolder⟩ := h.around
  have hsame : before ++ [name] = around ++ [named] :=
    hname.components.symm.trans hnamed.components
  obtain ⟨rfl, hlast⟩ := List.append_inj' hsame rfl
  exact ⟨(List.cons.inj hlast).1.symm, hfolder⟩

/-- **A file is read as before** when one of another name beside it was written. -/
theorem read_of_write_of_ne {path other : String} {around : List (List Char)}
    {name otherName : List Char} (hpath : Path.NamesFile path around name)
    (hother : Path.NamesFile other around otherName) (hne : name ≠ otherName)
    {content image : List UInt8} {written : Directory} (hread : directory.read path = .ok content)
    (hwrite : directory.write other image = .ok written) : written.read path = .ok content := by
  obtain ⟨folder, _, hleads⟩ := exists_leadsTo_of_read hread hpath.fileName?_eq
  obtain ⟨rfl, hfolder⟩ := hleads.of_namesFile hpath
  obtain ⟨place, _, hwrites, rfl⟩ := exists_leadsTo_of_write hwrite
  obtain ⟨rfl, hplace⟩ := hwrites.of_namesFile hother
  -- both names are looked for in the same directory
  obtain rfl : folder = place := Except.ok.inj (hfolder.symm.trans hplace)
  have hdistinct : join (folder ++ [name]) ≠ join (folder ++ [otherName]) := by
    intro hjoin
    have htext := congrArg String.toList hjoin
    rw [toList_join_concat, toList_join_concat] at htext
    exact hne (List.append_cancel_left htext)
  rw [(hleads.store hother.slash_notMem image).read_eq, file?_store, if_neg hdistinct,
    ← hread, hleads.read_eq]

end Directory

end AccumulatorMachine
