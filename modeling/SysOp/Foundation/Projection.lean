import SysOp.Foundation.Population

/-!
# The members of one group

A population in which everybody belongs to a group by a key, and the group on
its own.
-/

namespace SysOp.Foundation

universe u v

variable {Key : Type u} {Member : Type v} [DecidableEq Key]

/-- The members with this key, in their order. -/
def project (key : Key) (members : List (Key × Member)) : List Member :=
  (members.filter (·.1 = key)).map Prod.snd

section Project

variable {key other : Key} {members : List (Key × Member)}
  {member after : Member} {index : Nat}

@[simp]
theorem project_nil : project key ([] : List (Key × Member)) = [] := rfl

theorem project_append (first rest : List (Key × Member)) :
    project key (first ++ rest) = project key first ++ project key rest := by
  rw [project, List.filter_append, List.map_append]
  rfl

theorem project_map_self (events : List Member) :
    project key (events.map (key, ·)) = events := by
  induction events with
  | nil => rfl
  | cons event events inductionHypothesis =>
      rw [List.map_cons, project, List.filter_cons_of_pos (by simp)]
      exact congrArg (event :: ·) inductionHypothesis

theorem project_map_of_ne (different : other ≠ key) (events : List Member) :
    project key (events.map (other, ·)) = [] := by
  rw [project, List.map_eq_nil_iff, List.filter_eq_nil_iff]
  intro event member
  obtain ⟨_, _, rfl⟩ := List.mem_map.mp member
  simpa using different

/-- The members of one group weigh what the group weighs. -/
theorem census_project (weight : Member → Nat) :
    census (fun entry => if entry.1 = key then weight entry.2 else 0)
        members =
      census weight (project key members) := by
  induction members with
  | nil => rfl
  | cons first rest inductionHypothesis =>
      rw [census, List.map_cons, List.sum_cons]
      change _ + census _ rest = _
      rw [inductionHypothesis]
      by_cases same : first.1 = key
      · rw [if_pos same, project, project,
          List.filter_cons_of_pos (by simpa using same), List.map_cons]
        rfl
      · rw [if_neg same, project, project,
          List.filter_cons_of_neg (by simpa using same), Nat.zero_add]

/-- A step of another group leaves the group alone. -/
theorem project_set_of_ne (found : members[index]? = some (other, member))
    (different : other ≠ key) :
    project key (members.set index (other, after)) = project key members := by
  induction members generalizing index with
  | nil => rfl
  | cons first rest inductionHypothesis =>
      cases index with
      | zero =>
          cases found
          rw [List.set_cons_zero, project, project,
            List.filter_cons_of_neg (by simpa using different),
            List.filter_cons_of_neg (by simpa using different)]
      | succ index =>
          have kept := inductionHypothesis found
          rw [project, project] at kept ⊢
          rw [List.set_cons_succ]
          by_cases same : first.1 = key
          · rw [List.filter_cons_of_pos (by simpa using same),
              List.filter_cons_of_pos (by simpa using same), List.map_cons,
              List.map_cons, kept]
          · rw [List.filter_cons_of_neg (by simpa using same),
              List.filter_cons_of_neg (by simpa using same), kept]

/-- A step of a member is one of the group. -/
theorem project_set_self (found : members[index]? = some (key, member)) :
    ∃ place, (project key members)[place]? = some member ∧
      ∀ after, project key (members.set index (key, after)) =
        (project key members).set place after := by
  induction members generalizing index with
  | nil => cases found
  | cons first rest inductionHypothesis =>
      cases index with
      | zero =>
          cases found
          refine ⟨0, ?_, fun after => ?_⟩
          · rw [project, List.filter_cons_of_pos (by simp)]
            rfl
          · rw [List.set_cons_zero, project, project,
              List.filter_cons_of_pos (by simp),
              List.filter_cons_of_pos (by simp)]
            rfl
      | succ index =>
          obtain ⟨place, there, kept⟩ := inductionHypothesis found
          by_cases same : first.1 = key
          · refine ⟨place + 1, ?_, fun after => ?_⟩
            · rw [project, List.filter_cons_of_pos (by simpa using same)]
              exact there
            · rw [List.set_cons_succ, project, project,
                List.filter_cons_of_pos (by simpa using same),
                List.filter_cons_of_pos (by simpa using same), List.map_cons,
                List.map_cons, List.set_cons_succ]
              exact congrArg _ (kept after)
          · refine ⟨place, ?_, fun after => ?_⟩
            · rw [project, List.filter_cons_of_neg (by simpa using same)]
              exact there
            · rw [List.set_cons_succ, project, project,
                List.filter_cons_of_neg (by simpa using same),
                List.filter_cons_of_neg (by simpa using same)]
              exact kept after

end Project

end SysOp.Foundation
