import AthenaModels.Proofs.Materialization.Requests
import AthenaModels.Proofs.Program.Remainder

namespace AthenaModels.Materialization

open Fallible Program

variable {profile : Profile} {model : Model} {suffix sql location : String} {error : Error}
  {past : List service.Event}

/-- What is left is to fail with an error, once a staging table is dropped if there is one. -/
inductive GivesUp (profile : Profile) (model : Model) (error : Error) :
    Program service (Except Error Summary) → Prop where
  | atOnce : GivesUp profile model error (.done (.error error))
  | cleaning (suffix : String) : GivesUp profile model error (ExceptT.run (do
      dropStaging (model.relation.staging suffix)
        (stagingLocation profile (model.relation.staging suffix))
      Fallible.ofExcept (.error error)))

def Fills : Request → Prop
  | .fill _ _ => True
  | _ => False

theorem Writes.not_fills {request : Request} (writes : Writes model suffix past request) :
    ¬ Fills request := by
  cases writes <;> exact id

abbrev unfilled (sql location : String) (error : Error) : service.Event :=
  ⟨.fill sql location, .error error⟩

theorem fill_leaves (creation place : String) :
    (ExceptT.run (fill creation place)).Leaves (unfilled sql location error)
      (· = .done (.error error)) := by
  refine fun reply => ⟨fun same => ?_, trivial⟩
  cases same
  rfl

theorem leaves_of_makes {α : Type} {p : Program service α} {post : Program service α → Prop}
    (makes : p.Makes (¬ Fills ·)) : p.Leaves (unfilled sql location error) post :=
  makes.leaves (fun none => none trivial)

theorem writeByStaging_leaves {strategy : Strategy} {creation place : String}
    (valid : model.incremental.validate = .ok strategy) :
    (ExceptT.run (writeByStaging model strategy (model.relation.staging suffix) creation
      place)).Leaves (unfilled sql location error) (· = .done (.error error)) := by
  refine leaves_bind_error (fill_leaves creation place) fun _ => leaves_of_makes ?_
  have writes : (ExceptT.run (writeFromStaging model strategy
      (model.relation.staging suffix))).Keeps (writing model suffix) (fun _ _ => True) [] :=
    writeFromStaging_keeps valid nofun
  exact writes.makes fun _ _ writes => writes.not_fills

theorem updateTarget_leaves {strategy : Strategy}
    (valid : model.incremental.validate = .ok strategy) :
    (ExceptT.run (updateTarget profile model strategy)).Leaves (unfilled sql location error)
      (GivesUp profile model error) := by
  have draws : (ExceptT.run (drawName profile model)).Makes (¬ Fills ·) := by
    rw [run_drawName]
    exact ⟨id, fun _ => trivial⟩
  rw [updateTarget_eq]
  refine Fallible.leaves_bind (leaves_of_makes draws) fun drawn => ?_
  refine leaves_bind_outcome ((writeByStaging_leaves valid).mono ?_) fun outcome => ?_
  · rintro _ rfl
    exact .cleaning drawn.1
  · refine leaves_of_makes (Fallible.makes_bind ?_ fun _ => makes_ofExcept)
    exact ⟨id, fun _ => ⟨id, fun _ => trivial⟩⟩

theorem createTarget_leaves (strategy : Strategy) :
    (ExceptT.run (createTarget profile model strategy)).Leaves (unfilled sql location error)
      (GivesUp profile model error) := by
  have locates : (ExceptT.run (locate profile model.table)).Makes (¬ Fills ·) := by
    unfold locate
    split
    · trivial
    · exact Fallible.makes_bind ⟨id, fun _ => trivial⟩ fun _ => trivial
  refine Fallible.leaves_bind (leaves_of_makes locates) fun place => ?_
  refine Fallible.leaves_bind (leaves_of_makes makes_ofExcept) fun creation => ?_
  refine Leaves.mono (leaves_bind_error (fill_leaves creation place) fun _ => ?_) ?_
  · exact trivial
  · rintro _ rfl
    exact .atOnce

theorem run_leaves (profile : Profile) (model : Model) :
    (ExceptT.run (run profile model)).Leaves (unfilled sql location error)
      (GivesUp profile model error) := by
  cases valid : model.incremental.validate with
  | error error =>
      rw [run_of_error (.inl valid)]
      trivial
  | ok strategy =>
      cases settings : model.table.validate with
      | error error =>
          rw [run_of_error (.inr ⟨strategy, valid, settings⟩)]
          trivial
      | ok =>
          rw [run_of_valid valid settings]
          have looks : (ExceptT.run (relationExists model.relation)).Makes (¬ Fills ·) :=
            Fallible.makes_bind ⟨id, fun _ => trivial⟩ fun _ => trivial
          refine Fallible.leaves_bind (leaves_of_makes looks) fun found => ?_
          cases found with
          | true => exact updateTarget_leaves valid
          | false => exact createTarget_leaves strategy

end AthenaModels.Materialization
