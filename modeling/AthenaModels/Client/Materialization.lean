import AthenaModels.Client.Basic
import AthenaModels.Materialization

namespace AthenaModels.Client

def carryOut (c : Client) :
    (r : Materialization.Request) → Program Warehouse.service (Materialization.Reply r)
  | .query sql => (c.execute sql).run
  | .statement sql => (c.executeStatement sql).run
  | .fill sql location =>
      (c.executePrepared (do let _ ← Work.deletePrefix location) sql).run
  | .deleteObjects uris => Work.ask (.deleteObjects uris)
  | .deletePrefix location => Work.ask (.deletePrefix location)
  | .freshSuffix => Work.ask .freshSuffix
  | .freshUuid => Work.ask .freshUuid

def materialize (c : Client) (model : Model) : Work Summary :=
  (Materialization.run c.profile model).translate c.carryOut

end AthenaModels.Client
