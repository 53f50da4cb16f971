import Mathlib.Data.List.Forall2
import Mathlib.Data.List.Induction
import Mathlib.Data.List.Nodup

/-!
# Results, and lists entry by entry

The stages of the assembler go through lists and stop at the first fault, and
what they give is related to what they were given entry by entry. These are the
facts about such results and lists that no single stage owns.
-/

namespace AccumulatorMachine

/-- A result that was changed comes from one that was not a failure. -/
theorem map_eq_ok_iff {α β Failure : Type} {f : α → β} {x : Except Failure α} {b : β} :
    x.map f = .ok b ↔ ∃ a, x = .ok a ∧ f a = b := by
  cases x with
  | error failure =>
    exact ⟨fun h => absurd h (by simp [Except.map]), fun ⟨_, h, _⟩ => absurd h (by simp)⟩
  | ok a => simp [Except.map]

/-- A result that was changed fails as it did before. -/
theorem map_eq_error_iff {α β Failure : Type} {f : α → β} {x : Except Failure α}
    {failure : Failure} : x.map f = .error failure ↔ x = .error failure := by
  cases x with
  | error other => simp [Except.map]
  | ok a => simp [Except.map]

/-- **A traversal succeeds if it does at every entry**, with the results in
order. -/
theorem mapM_eq_ok_iff {α β Failure : Type} {f : α → Except Failure β} {l : List α}
    {results : List β} :
    l.mapM f = .ok results ↔ List.Forall₂ (fun a b => f a = .ok b) l results := by
  induction l generalizing results with
  | nil =>
    rw [List.mapM_nil, List.forall₂_nil_left_iff]
    exact ⟨fun h => (Except.ok.inj h).symm, fun h => h ▸ rfl⟩
  | cons a l ih =>
    rw [List.mapM_cons, List.forall₂_cons_left_iff]
    constructor
    · intro h
      cases hfirst : f a with
      | error fault => rw [hfirst] at h; exact absurd h (by simp [bind, Except.bind])
      | ok b =>
        cases hrest : l.mapM f with
        | error fault =>
          rw [hfirst, hrest] at h
          exact absurd h (by simp [bind, Except.bind])
        | ok rest =>
          rw [hfirst, hrest] at h
          exact ⟨b, rest, rfl, ih.mp hrest, (Except.ok.inj h).symm⟩
    · rintro ⟨b, rest, hfirst, hrest, rfl⟩
      rw [hfirst, ih.mpr hrest]
      rfl

/-! ## The first failure -/

/-- **What does not hold of all entries of a list** fails at a first one. -/
theorem exists_first_iff {α : Type} {P : α → Prop} {l : List α} :
    (∃ before a after, l = before ++ a :: after ∧ (∀ b ∈ before, P b) ∧ ¬ P a) ↔
      ¬ ∀ a ∈ l, P a := by
  constructor
  · rintro ⟨before, a, after, rfl, -, ha⟩ hall
    exact ha (hall a (List.mem_append_right before List.mem_cons_self))
  · intro hnot
    induction l with
    | nil => exact absurd (fun a h => absurd h List.not_mem_nil) hnot
    | cons first l ih =>
      by_cases hfirst : P first
      · rw [List.forall_mem_cons, not_and] at hnot
        obtain ⟨before, a, after, rfl, hbefore, ha⟩ := ih (hnot hfirst)
        exact ⟨first :: before, a, after, rfl, List.forall_mem_cons.mpr ⟨hfirst, hbefore⟩, ha⟩
      · exact ⟨[], first, l, rfl, fun b h => absurd h List.not_mem_nil, hfirst⟩

/-- **The first failure among results**: there are only successes before it. -/
def IsFirstFailure {α Failure : Type} (failure : Failure) (results : List (Except Failure α)) :
    Prop :=
  ∃ before after, results = before ++ .error failure :: after ∧
    ∀ result ∈ before, ∃ a, result = .ok a

section FirstFailure

variable {α β Failure : Type} {failure : Failure}

/-- Among no results there is no failure. -/
theorem not_isFirstFailure_nil : ¬ IsFirstFailure failure ([] : List (Except Failure α)) :=
  fun ⟨_, _, h, _⟩ => absurd h (by simp)

/-- A failure in front is the first one. -/
theorem isFirstFailure_error_cons_iff {other : Failure} {results : List (Except Failure α)} :
    IsFirstFailure failure (.error other :: results) ↔ other = failure := by
  constructor
  · rintro ⟨_ | ⟨first, before⟩, after, heq, hbefore⟩
    · exact Except.error.inj (List.cons.inj heq).1
    · obtain ⟨a, rfl⟩ := hbefore first List.mem_cons_self
      exact absurd (List.cons.inj heq).1 (by simp)
  · rintro rfl
    exact ⟨[], results, rfl, fun result h => absurd h List.not_mem_nil⟩

/-- A success in front changes nothing about the first failure. -/
theorem isFirstFailure_ok_cons_iff {a : α} {results : List (Except Failure α)} :
    IsFirstFailure failure (.ok a :: results) ↔ IsFirstFailure failure results := by
  constructor
  · rintro ⟨_ | ⟨first, before⟩, after, heq, hbefore⟩
    · exact absurd (List.cons.inj heq).1 (by simp)
    · exact ⟨before, after, (List.cons.inj heq).2, (List.forall_mem_cons.mp hbefore).2⟩
  · rintro ⟨before, after, rfl, hbefore⟩
    exact ⟨.ok a :: before, after, rfl, List.forall_mem_cons.mpr ⟨⟨a, rfl⟩, hbefore⟩⟩

/-- **The first failure of two lists of results** is that of the first one, or that of
the second if the first has none. -/
theorem isFirstFailure_append_iff {front back : List (Except Failure α)} :
    IsFirstFailure failure (front ++ back) ↔
      IsFirstFailure failure front ∨
        (∀ result ∈ front, ∃ a, result = .ok a) ∧ IsFirstFailure failure back := by
  induction front with
  | nil =>
    rw [List.nil_append, or_iff_right not_isFirstFailure_nil]
    exact (and_iff_right fun result h => absurd h List.not_mem_nil).symm
  | cons first front ih =>
    rw [List.cons_append, List.forall_mem_cons]
    cases first with
    | error other =>
      rw [isFirstFailure_error_cons_iff, isFirstFailure_error_cons_iff, or_iff_left]
      rintro ⟨⟨⟨a, ha⟩, -⟩, -⟩
      exact absurd ha (by simp)
    | ok a =>
      rw [isFirstFailure_ok_cons_iff, isFirstFailure_ok_cons_iff, ih,
        and_iff_right (show ∃ b, Except.ok a = .ok b from ⟨a, rfl⟩)]

/-- **The first failure of a function** is at an entry of the list, and the function
succeeds at those before. -/
theorem isFirstFailure_map_iff {f : α → Except Failure β} {l : List α} :
    IsFirstFailure failure (l.map f) ↔
      ∃ before a after, l = before ++ a :: after ∧ (∀ b ∈ before, ∃ c, f b = .ok c) ∧
        f a = .error failure := by
  constructor
  · rintro ⟨results, others, heq, hresults⟩
    obtain ⟨before, behind, rfl, rfl, hbehind⟩ := List.map_eq_append_iff.mp heq
    obtain ⟨a, after, rfl, ha, -⟩ := List.map_eq_cons_iff.mp hbehind
    exact ⟨before, a, after, rfl, fun b hb => hresults (f b) (List.mem_map_of_mem hb), ha⟩
  · rintro ⟨before, a, after, rfl, hbefore, ha⟩
    refine ⟨before.map f, after.map f, ?_, List.forall_mem_map.mpr hbefore⟩
    rw [List.map_append, List.map_cons, ha]

/-- **A traversal stops at the first failure.** -/
theorem mapM_eq_error_iff {f : α → Except Failure β} {l : List α} :
    l.mapM f = .error failure ↔ IsFirstFailure failure (l.map f) := by
  induction l with
  | nil => exact iff_of_false (by simp [pure, Except.pure]) not_isFirstFailure_nil
  | cons a l ih =>
    rw [List.mapM_cons, List.map_cons]
    cases f a with
    | error other =>
      rw [isFirstFailure_error_cons_iff]
      exact ⟨Except.error.inj, congrArg _⟩
    | ok b =>
      rw [isFirstFailure_ok_cons_iff, ← ih]
      cases l.mapM f with
      | error other => exact Iff.rfl
      | ok rest => exact iff_of_false (by simp [bind, Except.bind, pure, Except.pure]) (by simp)

/-- A traversal fails at one of the entries. -/
theorem exists_mem_of_mapM_eq_error {f : α → Except Failure β} {l : List α}
    (h : l.mapM f = .error failure) : ∃ a ∈ l, f a = .error failure := by
  obtain ⟨before, a, after, rfl, -, ha⟩ := isFirstFailure_map_iff.mp (mapM_eq_error_iff.mp h)
  exact ⟨a, List.mem_append_right before List.mem_cons_self, ha⟩

/-- **A traversal of traversals** stops at the first failure in any of them. -/
theorem mapM_map_mapM_eq_error_iff {γ δ : Type} {f : β → Except Failure γ} {g : α → List β}
    {h : α → List γ → δ} {l : List α} :
    (l.mapM fun a => ((g a).mapM f).map (h a)) = .error failure ↔
      IsFirstFailure failure ((l.flatMap g).map f) := by
  rw [mapM_eq_error_iff]
  induction l with
  | nil => exact iff_of_false not_isFirstFailure_nil not_isFirstFailure_nil
  | cons a l ih =>
    rw [List.map_cons, List.flatMap_cons, List.map_append, isFirstFailure_append_iff, ← ih,
      ← mapM_eq_error_iff]
    cases hfirst : (g a).mapM f with
    | error other =>
      rw [show Except.map (h a) (.error other) = .error other from rfl,
        isFirstFailure_error_cons_iff, Except.error.injEq, or_iff_left]
      rintro ⟨hall, -⟩
      obtain ⟨b, hmem, hb⟩ := exists_mem_of_mapM_eq_error hfirst
      obtain ⟨c, hc⟩ := hall _ (List.mem_map_of_mem hmem)
      exact absurd (hb.symm.trans hc) (by simp)
    | ok found =>
      rw [show Except.map (h a) (.ok found) = .ok (h a found) from rfl, isFirstFailure_ok_cons_iff,
        or_iff_right (by simp), and_iff_right]
      refine List.forall_mem_map.mpr fun b hmem => ?_
      obtain ⟨place, hplace⟩ := List.mem_iff_getElem?.mp hmem
      obtain ⟨hlt, rfl⟩ := List.getElem?_eq_some_iff.mp hplace
      have hall := mapM_eq_ok_iff.mp hfirst
      exact ⟨_, hall.get hlt (hall.length_eq ▸ hlt)⟩

end FirstFailure

/-! ## Both outcomes -/

section Changing

variable {α β γ δ ε ζ : Type}

/-- **A result with both outcomes changed**: what was found by `f`, and what went wrong
by `g`. -/
def changing (g : ε → ζ) (f : α → β) (x : Except ε α) : Except ζ β :=
  (x.mapError g).map f

@[simp] theorem changing_ok (g : ε → ζ) (f : α → β) (a : α) :
    changing g f (.ok a) = .ok (f a) := rfl

/-- Changing only what went wrong. -/
theorem changing_id (g : ε → ζ) (x : Except ε α) : changing g id x = x.mapError g := by
  cases x <;> rfl

/-- Changing what was found first. -/
theorem changing_map (g : ε → ζ) (f : β → γ) (h : α → β) (x : Except ε α) :
    changing g f (x.map h) = changing g (fun a => f (h a)) x := by
  cases x <;> rfl

/-- Changing what was found last. -/
theorem map_changing (g : ε → ζ) (f : β → γ) (h : α → β) (x : Except ε α) :
    (changing g h x).map f = changing g (fun a => f (h a)) x := by
  cases x <;> rfl

/-- **The outcome of a traversal is changed** if that of every entry is. -/
theorem mapM_map_changing {g : ε → ζ} {a : α → γ} {b : β → δ} {f : α → Except ε β}
    {f' : γ → Except ζ δ} (h : ∀ x, f' (a x) = changing g b (f x)) (l : List α) :
    (l.map a).mapM f' = changing g (List.map b) (l.mapM f) := by
  induction l with
  | nil => rfl
  | cons x l ih =>
    rw [List.map_cons, List.mapM_cons, List.mapM_cons, h, ih]
    cases f x with
    | error fault => rfl
    | ok first => cases l.mapM f <;> rfl

end Changing

/-! ## Entry by entry -/

/-- A list is the image of another if its entries are the images of the other's. -/
theorem eq_map_iff_forall₂ {α β : Type} {f : β → α} {l : List α} {l' : List β} :
    l = l'.map f ↔ List.Forall₂ (fun a b => a = f b) l l' := by
  rw [← List.forall₂_map_right_iff, List.forall₂_eq_eq_eq]

/-- An entry at a place of one list is related to the entry at this place of the
other. -/
theorem exists_getElem?_of_forall₂ {α β : Type} {R : α → β → Prop} {l : List α} {l' : List β}
    (h : List.Forall₂ R l l') {place : Nat} {a : α} (ha : l[place]? = some a) :
    ∃ b, l'[place]? = some b ∧ R a b := by
  obtain ⟨hplace, rfl⟩ := List.getElem?_eq_some_iff.mp ha
  have hplace' : place < l'.length := h.length_eq ▸ hplace
  exact ⟨l'[place], List.getElem?_eq_getElem hplace', h.get hplace hplace'⟩

/-- An entry of one list is related to an entry of the other. -/
theorem exists_mem_of_forall₂ {α β : Type} {R : α → β → Prop} {l : List α} {l' : List β}
    (h : List.Forall₂ R l l') {a : α} (ha : a ∈ l) : ∃ b ∈ l', R a b := by
  obtain ⟨place, hplace⟩ := List.mem_iff_getElem?.mp ha
  obtain ⟨b, hb, hab⟩ := exists_getElem?_of_forall₂ h hplace
  exact ⟨b, List.mem_of_getElem? hb, hab⟩

/-- A list is taken apart at the place of an entry. -/
theorem eq_take_append_of_getElem? {α : Type} {l : List α} {place : Nat} {a : α}
    (h : l[place]? = some a) : l = l.take place ++ a :: l.drop (place + 1) := by
  obtain ⟨hplace, rfl⟩ := List.getElem?_eq_some_iff.mp h
  rw [List.getElem_cons_drop, List.take_append_drop]

/-- **One entry more adds itself to the entries without repetitions**, unless it is one of
them. -/
theorem eraseDups_concat {α : Type} [DecidableEq α] (l : List α) (a : α) :
    (l ++ [a]).eraseDups = if a ∈ l then l.eraseDups else l.eraseDups ++ [a] := by
  rw [List.eraseDups_append]
  split
  · next hmem => simp [List.removeAll, hmem]
  · next hmem => simp [List.removeAll, hmem, List.eraseDups_cons]

/-- The entries without repetitions have none. -/
theorem nodup_eraseDups {α : Type} [DecidableEq α] (l : List α) : l.eraseDups.Nodup := by
  induction l using List.reverseRecOn with
  | nil => exact List.nodup_nil
  | append_singleton l a ih =>
    rw [eraseDups_concat]
    split
    · exact ih
    · next hnew =>
      rw [← List.concat_eq_append]
      exact ih.concat fun hmem => hnew (List.mem_eraseDups.mp hmem)

/-- An entry stays at its place when a list goes on. -/
theorem getElem?_of_longer {α : Type} {l longer : List α} (h : l <+: longer) {place : Nat} {a : α}
    (ha : l[place]? = some a) : longer[place]? = some a := by
  obtain ⟨hplace, rfl⟩ := List.getElem?_eq_some_iff.mp ha
  exact List.prefix_iff_getElem?.mp h place hplace

/-- A list is taken apart where the other one is. -/
theorem exists_append_of_forall₂ {α β : Type} {R : α → β → Prop} {front back : List α} {a : α}
    {l' : List β} (h : List.Forall₂ R (front ++ a :: back) l') :
    ∃ front' b back', l' = front' ++ b :: back' ∧ List.Forall₂ R front front' ∧ R a b := by
  induction front generalizing l' with
  | nil =>
    obtain ⟨b, back', hb, -, rfl⟩ := List.forall₂_cons_left_iff.mp h
    exact ⟨[], b, back', rfl, .nil, hb⟩
  | cons first front ih =>
    obtain ⟨other, rest, hfirst, hrest, rfl⟩ := List.forall₂_cons_left_iff.mp h
    obtain ⟨front', b, back', rfl, hfront, hb⟩ := ih hrest
    exact ⟨other :: front', b, back', rfl, .cons hfirst hfront, hb⟩

/-- **A function fails first where related entries do**: it succeeds at those of which
something holds, and fails at the one behind them. -/
theorem isFirstFailure_map_iff_of_forall₂ {α β γ Failure : Type} {R : α → β → Prop}
    {P Q : α → Prop} {f : β → Except Failure γ} {failure : Failure} {l : List α} {l' : List β}
    (h : List.Forall₂ R l l') (hok : ∀ a b, R a b → (P a ↔ ∃ c, f b = .ok c))
    (herror : ∀ a b, R a b → (Q a ↔ f b = .error failure)) :
    IsFirstFailure failure (l'.map f) ↔
      ∃ before a after, l = before ++ a :: after ∧ (∀ b ∈ before, P b) ∧ Q a := by
  rw [isFirstFailure_map_iff]
  constructor
  · rintro ⟨front, b, back, rfl, hfront, hb⟩
    obtain ⟨before, a, after, rfl, hbefore, hab⟩ := exists_append_of_forall₂ h.flip
    refine ⟨before, a, after, rfl, fun first hmem => ?_, (herror a b hab).mpr hb⟩
    obtain ⟨other, hother, hfirst⟩ := exists_mem_of_forall₂ hbefore.flip hmem
    exact (hok first other hfirst).mpr (hfront other hother)
  · rintro ⟨before, a, after, rfl, hbefore, ha⟩
    obtain ⟨front, b, back, rfl, hfront, hab⟩ := exists_append_of_forall₂ h
    refine ⟨front, b, back, rfl, fun other hmem => ?_, (herror a b hab).mp ha⟩
    obtain ⟨first, hfirst, hother⟩ := exists_mem_of_forall₂ hfront.flip hmem
    exact (hok first other hother).mp (hbefore first hfirst)

/-- What follows from a relation at the entries of a list may use that they are in
it. -/
theorem forall₂_imp_of_mem {α β : Type} {R S : α → β → Prop} {l : List α} {l' : List β}
    (h : List.Forall₂ R l l') (himp : ∀ a ∈ l, ∀ b, R a b → S a b) : List.Forall₂ S l l' := by
  have hmem : List.Forall₂ (fun a b => a ∈ l ∧ R a b) l l' :=
    (List.forall₂_and_left _ _).mpr ⟨fun _ => id, h⟩
  exact hmem.imp fun a b hboth => himp a hboth.1 b hboth.2

/-- Related entries of two lists are so too if they are because of being in the lists. -/
theorem forall₂_imp_of_mem_mem {α β : Type} {R S : α → β → Prop} {l : List α} {l' : List β}
    (h : List.Forall₂ R l l') (himp : ∀ a ∈ l, ∀ b ∈ l', R a b → S a b) : List.Forall₂ S l l' := by
  have hright : List.Forall₂ (fun b a => b ∈ l' ∧ R a b) l' l :=
    forall₂_imp_of_mem h.flip fun b hb a hab => ⟨hb, hab⟩
  exact forall₂_imp_of_mem hright.flip fun a ha b hboth => himp a ha b hboth.1 hboth.2

/-- Entries that are related to entries of the same list are related to each
other. -/
theorem forall₂_of_forall₂ {α β γ : Type} {R : α → β → Prop} {S : α → γ → Prop}
    {T : β → γ → Prop} {l : List α} {l' : List β} {l'' : List γ} (hleft : List.Forall₂ R l l')
    (hright : List.Forall₂ S l l'') (hboth : ∀ a b c, R a b → S a c → T b c) :
    List.Forall₂ T l' l'' := by
  induction hleft generalizing l'' with
  | nil => cases hright; exact .nil
  | cons hfirst _ ih =>
    obtain ⟨c, rest, hc, hrest, rfl⟩ := List.forall₂_cons_left_iff.mp hright
    exact .cons (hboth _ _ _ hfirst hc) (ih hrest)

/-- **A list of related entries goes on** where the other list does, if no entry could be
related to two. -/
theorem prefix_of_forall₂ {α β : Type} {R S : α → β → Prop} {l more : List α}
    {l' longer : List β} (h : List.Forall₂ R l l') (hlonger : List.Forall₂ S (l ++ more) longer)
    (hsame : ∀ a b c, R a b → S a c → b = c) : l' <+: longer := by
  induction h generalizing longer with
  | nil => exact List.nil_prefix
  | cons hfirst _ ih =>
    obtain ⟨c, rest, hc, hrest, rfl⟩ := List.forall₂_cons_left_iff.mp hlonger
    exact List.cons_prefix_cons.mpr ⟨hsame _ _ _ hfirst hc, ih hrest⟩

/-- **Entries that each have a third one in between** have a list of them. -/
theorem exists_forall₂_between {α β γ : Type} {R : α → β → Prop} {S : α → γ → Prop}
    {T : β → γ → Prop} {l : List α} {l' : List β} (h : List.Forall₂ R l l')
    (hbetween : ∀ a b, R a b → ∃ c, S a c ∧ T b c) :
    ∃ l'', List.Forall₂ S l l'' ∧ List.Forall₂ T l' l'' := by
  induction h with
  | nil => exact ⟨[], .nil, .nil⟩
  | cons hfirst _ ih =>
    obtain ⟨c, hleft, hright⟩ := hbetween _ _ hfirst
    obtain ⟨rest, hlefts, hrights⟩ := ih
    exact ⟨c :: rest, .cons hleft hlefts, .cons hright hrights⟩

/-- **There is a list of related entries** exactly if there is an entry for
each. -/
theorem exists_forall₂_iff {α β : Type} {R : α → β → Prop} {l : List α} :
    (∃ l', List.Forall₂ R l l') ↔ ∀ a ∈ l, ∃ b, R a b := by
  constructor
  · rintro ⟨l', h⟩ a ha
    obtain ⟨b, -, hab⟩ := exists_mem_of_forall₂ h ha
    exact ⟨b, hab⟩
  · intro h
    induction l with
    | nil => exact ⟨[], .nil⟩
    | cons a l ih =>
      rw [List.forall_mem_cons] at h
      obtain ⟨b, hab⟩ := h.1
      obtain ⟨l', hrest⟩ := ih h.2
      exact ⟨b :: l', .cons hab hrest⟩

/-- Something holds of all entries of a list if and only if something related holds
of all related entries. -/
theorem forall_mem_iff_of_forall₂ {α β : Type} {R : α → β → Prop} {P : α → Prop} {Q : β → Prop}
    {l : List α} {l' : List β} (h : List.Forall₂ R l l') (hsame : ∀ a b, R a b → (P a ↔ Q b)) :
    (∀ a ∈ l, P a) ↔ ∀ b ∈ l', Q b := by
  induction h with
  | nil => simp
  | cons hfirst _ ih =>
    rw [List.forall_mem_cons, List.forall_mem_cons, hsame _ _ hfirst, ih]

/-- Lists of related entries have the same images, if related entries do. -/
theorem map_eq_of_forall₂ {α β γ : Type} {R : α → β → Prop} {f : α → γ} {g : β → γ}
    {l : List α} {l' : List β} (h : List.Forall₂ R l l') (hsame : ∀ a b, R a b → f a = g b) :
    l.map f = l'.map g := by
  induction h with
  | nil => rfl
  | cons hfirst _ ih => rw [List.map_cons, List.map_cons, hsame _ _ hfirst, ih]

/-- Lists of related entries have the same selection, if related entries have
the same image. -/
theorem filterMap_eq_of_forall₂ {α β γ : Type} {R : α → β → Prop} {f : α → Option γ}
    {g : β → Option γ} {l : List α} {l' : List β} (h : List.Forall₂ R l l')
    (hsame : ∀ a b, R a b → f a = g b) : l.filterMap f = l'.filterMap g := by
  induction h with
  | nil => rfl
  | cons hfirst _ ih => rw [List.filterMap_cons, List.filterMap_cons, hsame _ _ hfirst, ih]

end AccumulatorMachine
