import RomaBridge.Foundation.RelyGuarantee

/-! Pre- and postconditions for programs under interference.
A triple says that a program, started in any store of the invariant that satisfies `pre`, is
safe and ends in `returns` or `raises`. Assertions must survive the interference of the
contract; the rules below are the only way later proofs meet `Safe`.
-/

namespace RomaBridge.Foundation

variable {S : Signature} {σ τ ρ α β : Type}

/-- An assertion that no tolerated interference destroys. -/
def Contract.Stable (contract : Contract S σ τ) (assertion : σ → Prop) : Prop :=
  ∀ ⦃before after⦄,
    contract.rely before after → contract.inv after → assertion before → assertion after

/-- What every executed call must establish. -/
structure Contract.Keeps (contract : Contract S σ τ) (M : Machine S σ τ ρ) (store : σ)
    (query : S.Call) (fault : Fault)
    : Prop where
  inv : contract.inv (M.exec query fault store).2
  guarantee : contract.guarantee store query fault (M.exec query fault store).2
  admits : ∀ kind ∈ M.started query (M.exec query fault store).1, contract.admits kind

theorem Contract.Keeps.of_apply {contract : Contract S σ τ} {M : Machine S σ τ ρ} {store : σ}
    {query : S.Call} {fault : Fault}
    (stutters : contract.inv store ∧ contract.guarantee store query fault store)
    (applied
      : contract.inv (M.apply query store).2
        ∧ contract.guarantee store query fault (M.apply query store).2)
    (admits : ∀ kind ∈ M.started query (M.exec query fault store).1, contract.admits kind)
    : contract.Keeps M store query fault := by
  exact ⟨M.exec_holds stutters.1 applied.1, M.exec_holds stutters.2 applied.2, admits⟩

theorem Contract.Keeps.of_effect {contract : Contract S σ τ} {M : Machine S σ τ ρ} {store : σ}
    {query : S.Call} {fault : Fault}
    (stutters : contract.inv store ∧ contract.guarantee store query fault store)
    (applied
      : fault.takesEffect = true
        → contract.inv (M.apply query store).2
          ∧ contract.guarantee store query fault (M.apply query store).2)
    (admits : ∀ kind ∈ M.started query (M.exec query fault store).1, contract.admits kind)
    : contract.Keeps M store query fault := by
  cases fault with
  | none => exact ⟨(applied rfl).1, (applied rfl).2, admits⟩
  | before reason => exact ⟨stutters.1, stutters.2, admits⟩
  | after reason => exact ⟨(applied rfl).1, (applied rfl).2, admits⟩

def Program.Triple (M : Machine S σ τ ρ) (contract : Contract S σ τ) (pre : σ → Prop)
    (program : Program S α) (returns : α → σ → Prop) (raises : S.Exn → σ → Prop)
    : Prop :=
  ∀ store, contract.inv store → pre store → program.Safe M contract returns raises store

namespace Program.Triple

variable {M : Machine S σ τ ρ} {contract : Contract S σ τ} {pre pre' : σ → Prop}
  {returns returns' : α → σ → Prop} {raises raises' : S.Exn → σ → Prop}

theorem strengthen {program : Program S α} (triple : Triple M contract pre program returns raises)
    (entails : ∀ store, contract.inv store → pre' store → pre store)
    : Triple M contract pre' program returns raises :=
  fun store inv holds => triple store inv (entails store inv holds)

theorem weaken {program : Program S α} (triple : Triple M contract pre program returns raises)
    (returned : ∀ value store, contract.inv store → returns value store → returns' value store)
    (raised : ∀ exn store, contract.inv store → raises exn store → raises' exn store)
    : Triple M contract pre program returns' raises' :=
  fun store inv holds => (triple store inv holds).mono returned raised

theorem done {value : α} (stable : contract.Stable pre)
    (entails : ∀ store, contract.inv store → pre store → returns value store)
    : Triple M contract pre (.done value) returns raises :=
  fun _ _ holds later moved inv => entails later inv (stable moved inv holds)

theorem raised {exn : S.Exn} (stable : contract.Stable pre)
    (entails : ∀ store, contract.inv store → pre store → raises exn store)
    : Triple M contract pre (.raised exn) returns raises :=
  fun _ _ holds later moved inv => entails later inv (stable moved inv holds)

theorem ofExcept {outcome : Except S.Exn α} (stable : contract.Stable pre)
    (returned
      : ∀ value store,
          outcome = .ok value → contract.inv store → pre store → returns value store)
    (raised
      : ∀ exn store, outcome = .error exn → contract.inv store → pre store → raises exn store)
    : Triple M contract pre (Program.ofExcept outcome) returns raises := by
  cases outcome with
  | ok value => exact done stable (fun store => returned value store rfl)
  | error exn => exact Triple.raised stable (fun store => raised exn store rfl)

/-- One call from a stable assertion: its reply when nothing failed, its exception, with or
without the effect of the call, when something did.
-/
theorem perform {query : S.Call} {returns : S.Reply query → σ → Prop}
    (stable : contract.Stable pre) (stableReturns : ∀ reply, contract.Stable (returns reply))
    (stableRaises : ∀ exn, contract.Stable (raises exn))
    (keeps
      : ∀ store fault,
          contract.inv store
          → pre store
          → contract.allowed store query fault
          → contract.Keeps M store query fault)
    (returned
      : ∀ store,
          contract.inv store
          → pre store
          → contract.allowed store query .none
          → returns (M.apply query store).1 (M.apply query store).2)
    (failed
      : ∀ store fault reason,
          contract.inv store
          → pre store
          → contract.allowed store query fault
          → fault = .before reason ∨ fault = .after reason
          → raises (M.raise query reason) (M.exec query fault store).2)
    : Triple M contract pre (Program.perform query) returns raises := by
  intro store _ holds later moved inv fault allowed
  have start := stable moved inv holds
  obtain ⟨keeps, guarantee, admitted⟩ := keeps later fault inv start allowed
  refine ⟨keeps, guarantee, admitted, ?_⟩
  cases fault with
  | none =>
      have reached := returned later inv start allowed
      exact fun last more lastInv => stableReturns _ more lastInv reached
  | before reason =>
      have reached := failed later _ reason inv start allowed (Or.inl rfl)
      exact fun last more lastInv => stableRaises _ more lastInv reached
  | after reason =>
      have reached := failed later _ reason inv start allowed (Or.inr rfl)
      exact fun last more lastInv => stableRaises _ more lastInv reached

theorem bind (composes : contract.Composes) (between : α → σ → Prop) {body : Program S α}
    {rest : α → Program S β} {returns : β → σ → Prop}
    (first : Triple M contract pre body between raises)
    (later : ∀ value, Triple M contract (between value) (rest value) returns raises)
    : Triple M contract pre (body.bind rest) returns raises :=
  fun store inv holds =>
    .bind composes ((first store inv holds).mono
      (fun value last lastInv reached => later value last lastInv reached)
      (fun _ _ _ reached => reached))

theorem handle (composes : contract.Composes) (between : S.Exn → σ → Prop)
    {body : Program S α} {handler : S.Exn → Program S α}
    (first : Triple M contract pre body returns between)
    (caught : ∀ exn, Triple M contract (between exn) (handler exn) returns raises)
    : Triple M contract pre (body.handle handler) returns raises :=
  fun store inv holds =>
    .handle composes ((first store inv holds).mono (fun _ _ _ reached => reached)
      (fun exn last lastInv reached => caught exn last lastInv reached))

theorem attempt (composes : contract.Composes) {body : Program S α}
    {caught : Except S.Exn α → σ → Prop}
    (stable : ∀ outcome, contract.Stable (caught outcome))
    (first
      : Triple M contract pre body (fun value => caught (.ok value))
          (fun exn => caught (.error exn)))
    : Triple M contract pre (Program.attempt body) caught raises := by
  refine handle composes _ (bind composes _ first ?_) ?_
  · exact fun value => done (stable _) (fun _ _ reached => reached)
  · exact fun exn => done (stable _) (fun _ _ reached => reached)

theorem closed (composes : contract.Composes)
    : Program.Closed (S := S) (fun _ program =>
        Triple M contract (fun _ => True) program (fun _ _ => True) (fun _ _ => True)) where
  done _ := Triple.done (fun _ _ _ _ holds => holds) (fun _ _ holds => holds)
  raised _ := Triple.raised (fun _ _ _ _ holds => holds) (fun _ _ holds => holds)
  bind first later := Triple.bind composes _ first later
  handle first caught := Triple.handle composes _ first caught

/-- Programs whose every call keeps the contract from an assertion keep the assertion, by
induction on the program.
-/
theorem of_issues {P : S.Call → Prop} {program : Program S α} (issues : program.Issues P)
    (stable : contract.Stable pre)
    (calls
      : ∀ query store fault,
          P query
          → contract.inv store
          → pre store
          → contract.allowed store query fault
          → contract.Keeps M store query fault ∧ pre (M.exec query fault store).2)
    : Triple M contract pre program (fun _ => pre) (fun _ => pre) := by
  induction program with
  | done value => exact Triple.done stable (fun _ _ holds => holds)
  | raised exn => exact Triple.raised stable (fun _ _ holds => holds)
  | call query next ih =>
      intro store _ holds later moved inv fault allowed
      obtain ⟨⟨keeps, guarantee, admitted⟩, reached⟩ :=
        calls query later fault issues.1 inv (stable moved inv holds) allowed
      exact ⟨keeps, guarantee, admitted, ih _ (issues.2 _) _ keeps reached⟩

end Program.Triple
end RomaBridge.Foundation
