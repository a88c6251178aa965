import Mathlib.Data.List.Basic

/-!
# Steps in a row

A chronicle is a list of steps, each written down with the state that it finds, so that what happened before a
step and behind it can be told from the list alone.  Between two steps the state may shift by itself.

* `Chronicle.split`: a chronicle can be cut at any of its steps;
* `Chronicle.preserved`, `Chronicle.holds_of_mem`: what shifts and steps preserve holds all the way;
* `latest_concat`: which was the latest step of a kind that nothing has undone since.
-/

namespace RemoteShell

variable {σ κ τ : Type}

/-- A step in a list with one step more is that one, or stands in the list itself. -/
theorem split_concat {steps earlier later : List κ} {x y : κ} (h : steps ++ [x] = earlier ++ y :: later) :
    (steps = earlier ∧ x = y ∧ later = []) ∨ ∃ later', later = later' ++ [x] ∧ steps = earlier ++ y :: later' := by
  rcases List.eq_nil_or_concat later with rfl | ⟨later', z, rfl⟩
  · obtain ⟨hsteps, hx⟩ := List.append_inj' h rfl
    exact .inl ⟨hsteps, List.singleton_inj.1 hx, rfl⟩
  · rw [List.concat_eq_append, ← List.cons_append, ← List.append_assoc] at h
    obtain ⟨hsteps, hx⟩ := List.append_inj' h rfl
    exact .inr ⟨later', by rw [List.concat_eq_append, List.singleton_inj.1 hx], hsteps⟩

/-- Some steps in a row.  Before each of them the state may shift. -/
inductive Chronicle (shifts : σ → σ → Prop) (before after : κ → σ) : σ → List κ → σ → Prop
  | nil (s : σ) : Chronicle shifts before after s [] s
  | cons {s s' : σ} {x : κ} {steps : List κ} (shift : shifts s (before x))
      (rest : Chronicle shifts before after (after x) steps s') : Chronicle shifts before after s (x :: steps) s'

/-- The steps that some turns make, if nothing shifts. -/
def record (step : σ → τ → κ) (after : κ → σ) (s : σ) : List τ → List κ
  | [] => []
  | turn :: turns => step s turn :: record step after (after (step s turn)) turns

section Chronicle

variable {shifts : σ → σ → Prop} {before after : κ → σ} {s s' : σ} {x : κ} {steps earlier later : List κ}

/-- Any turns can be made. -/
theorem chronicle_record {step : σ → τ → κ} {turn : κ → τ} (hshifts : ∀ s, shifts s s)
    (hbefore : ∀ s t, before (step s t) = s) (hturn : ∀ s t, turn (step s t) = t) (s : σ) (turns : List τ) :
    (∃ s', Chronicle shifts before after s (record step after s turns) s') ∧
      (record step after s turns).map turn = turns := by
  induction turns generalizing s with
  | nil => exact ⟨⟨s, .nil s⟩, rfl⟩
  | cons t turns ih =>
    obtain ⟨⟨s', hrest⟩, hturns⟩ := ih (after (step s t))
    refine ⟨⟨s', .cons ?_ hrest⟩, ?_⟩
    · rw [hbefore]
      exact hshifts s
    · rw [record, List.map_cons, hturn, hturns]

namespace Chronicle

theorem append_iff : Chronicle shifts before after s (earlier ++ later) s' ↔
    ∃ t, Chronicle shifts before after s earlier t ∧ Chronicle shifts before after t later s' := by
  constructor
  · intro h
    induction earlier generalizing s with
    | nil => exact ⟨s, .nil s, h⟩
    | cons x earlier ih =>
      cases h with
      | cons shift rest =>
        obtain ⟨t, hearlier, hlater⟩ := ih rest
        exact ⟨t, .cons shift hearlier, hlater⟩
  · rintro ⟨t, hearlier, hlater⟩
    induction hearlier with
    | nil => exact hlater
    | cons shift _ ih => exact .cons shift (ih hlater)

/-- The chronicle around one of its steps. -/
theorem split (h : Chronicle shifts before after s (earlier ++ x :: later) s') :
    ∃ t, Chronicle shifts before after s earlier t ∧ shifts t (before x) ∧
      Chronicle shifts before after (after x) later s' := by
  obtain ⟨t, hearlier, hlater⟩ := append_iff.1 h
  cases hlater with
  | cons shift rest => exact ⟨t, hearlier, shift, rest⟩

variable {P : σ → Prop}

/-- **What shifts and steps preserve** holds in the end. -/
theorem preserved (h : Chronicle shifts before after s steps s') (hshift : ∀ s t, shifts s t → P s → P t)
    (hstep : ∀ x ∈ steps, P (before x) → P (after x)) (hs : P s) : P s' := by
  induction h with
  | nil => exact hs
  | cons shift _ ih =>
    obtain ⟨hfirst, hothers⟩ := List.forall_mem_cons.1 hstep
    exact ih hothers (hfirst (hshift _ _ shift hs))

/-- Every step finds it. -/
theorem holds_of_mem (h : Chronicle shifts before after s steps s') (hshift : ∀ s t, shifts s t → P s → P t)
    (hstep : ∀ x ∈ steps, P (before x) → P (after x)) (hs : P s) (hx : x ∈ steps) : P (before x) := by
  obtain ⟨earlier, later, rfl⟩ := List.append_of_mem hx
  obtain ⟨t, hearlier, shift, -⟩ := h.split
  exact hshift _ _ shift (hearlier.preserved hshift (fun y hy => hstep y (List.mem_append_left _ hy)) hs)

end Chronicle

/-! ## The latest step of a kind -/

/-- Among some steps there is one of a kind, and all behind it let it be. -/
def Latest (kind lets : κ → Prop) (steps : List κ) : Prop :=
  ∃ earlier x later, steps = earlier ++ x :: later ∧ kind x ∧ ∀ y ∈ later, lets y

variable {kind lets : κ → Prop}

theorem not_latest_nil : ¬ Latest kind lets [] := by
  rintro ⟨earlier, x, later, hsplit, -⟩
  exact List.append_ne_nil_of_right_ne_nil earlier (List.cons_ne_nil x later) hsplit.symm

/-- The latest one is the last step, or was the latest one before and the last step lets it be. -/
theorem latest_concat : Latest kind lets (steps ++ [x]) ↔ kind x ∨ (Latest kind lets steps ∧ lets x) := by
  constructor
  · rintro ⟨earlier, y, later, hsplit, hkind, hlets⟩
    obtain ⟨-, rfl, -⟩ | ⟨later', rfl, hsteps⟩ := split_concat hsplit
    · exact .inl hkind
    · rw [List.forall_mem_append] at hlets
      exact .inr ⟨⟨earlier, y, later', hsteps, hkind, hlets.1⟩, hlets.2 x (List.mem_singleton_self x)⟩
  · rintro (hkind | ⟨⟨earlier, y, later, rfl, hkind, hlets⟩, hlast⟩)
    · exact ⟨steps, x, [], rfl, hkind, nofun⟩
    · refine ⟨earlier, y, later ++ [x], List.append_assoc _ _ _, hkind, ?_⟩
      rw [List.forall_mem_append, List.forall_mem_singleton]
      exact ⟨hlets, hlast⟩

end Chronicle

end RemoteShell
