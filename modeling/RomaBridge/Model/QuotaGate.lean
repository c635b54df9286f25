import RomaBridge.Model.Service

/-! `POST /submit` with the gate of `cost/gate.py` in front of the insert.
The gate reads the tenant's plan and counts its rows in transactions of their own; the plan stays
what it is for the whole run, so that reading it can only succeed or fail.
-/

namespace RomaBridge.Model

open RomaBridge.Foundation

/-- The calls of a gated submit: those of the gate and those of the bridge. -/
inductive GatedCall where
  | getTenant (tenantId : String)
  | countJobsForTenantTotal (tenantId : String)
  | bridge (call : Call)

def GatedCall.Reply : GatedCall → Type
  | .getTenant _ => Unit
  | .countJobsForTenantTotal _ => ℕ
  | .bridge call => call.query.Reply

/-- The calls, replies and exceptions of a gated submit. -/
@[reducible]
def gated : Signature where
  Call := GatedCall
  Reply := GatedCall.Reply
  Exn := Exn

def onBridge {α : Type} : Action α → Program gated α
  | .done value => .done value
  | .raised exn => .raised exn
  | .call query next => .call (.bridge query) (fun reply => onBridge (next reply))

/-- `EnterpriseDecisionGate.evaluate`, then the 402 of a denial. `limit` is the plan's `max_jobs`,
`none` for a tenant that does not exist; a negative limit is unlimited.
-/
def gateThen {α : Type} (limit : Option ℤ) (tenantId : String) (rest : Program gated α)
    : Program gated α :=
  (Program.perform (S := gated) (.getTenant tenantId)).bind (fun _ =>
    match limit with
    | none => .raised (.http 402 "tenant not found")
    | some maxJobs =>
        (Program.perform (S := gated) (.countJobsForTenantTotal tenantId)).bind
          (fun jobCount : ℕ =>
            if 0 ≤ maxJobs ∧ maxJobs ≤ jobCount then
              .raised (.http 402
                ("quota exceeded: " ++ toString jobCount ++ "/" ++ toString maxJobs ++ " jobs"))
            else rest))

/-- `POST /submit`; the request's own decision is not read. -/
def gatedSubmit (limits : String → Option ℤ) (request : SubmitRequest)
    : Program gated SubmitResponse :=
  match parseIdempotencyKey request.header with
  | .error exn => .raised exn
  | .ok none =>
      gateThen (limits request.tenantId) request.tenantId (onBridge (submitInsert request))
  | .ok (some key) =>
      (onBridge (submitReplay request.tenantId key)).bind (fun replayed =>
        match replayed with
        | some response => .done response
        | none =>
            gateThen (limits request.tenantId) request.tenantId
              ((onBridge (submitReserve request.tenantId key request.newId)).bind
                (fun reserved =>
                  match reserved with
                  | some response => .done response
                  | none => onBridge (submitInsert request))))

def tenantRows (db : Db) (tenantId : String) : ℕ :=
  db.jobs.count (fun row => row.tenantId = tenantId)

/-- Any number of replicas answering submits over one database. -/
@[reducible]
def submitService (limits : String → Option ℤ)
    : Machine gated Db SubmitRequest SubmitResponse where
  apply := fun call db =>
    match call with
    | .getTenant _ => ((), db)
    | .countJobsForTenantTotal tenantId => (tenantRows db tenantId, db)
    | .bridge call => db.apply call.query
  raise := fun call reason =>
    match call with
    | .bridge call => call.failure reason
    | _ => .database reason
  killed := .killed
  body := gatedSubmit limits
  starts := fun _ _ => []

end RomaBridge.Model
