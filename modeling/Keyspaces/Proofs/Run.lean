import Keyspaces.Proofs.Operation

/-
  Runs of an application: operations in any order, between
  which paths may come to find something else and
  configurations in use may be given other values.

  Main declarations:
    * `Holder`
    * `Step`
    * `Application.run`
-/

------------------------------------------------------------
-- Steps
------------------------------------------------------------

namespace Keyspaces

/- What may hold a configuration of its own. -/
inductive Holder
| registry (id : RegistryId)
| factory (id : FactoryId)
| context (id : ContextId)

namespace Holder

/- The configuration that is given as an argument changes. -/
def setArgument (conf : Config) : Argument → Argument
| .registry id => .registry id
| .conf given => .conf (given.map fun _ => conf)

/-
  The configuration that something holds, if it holds one of
  its own, has other values.
-/
def reconfigure
    (app : Application)
    (conf : Config) : Holder → Application
| .registry id =>
    let found := app.registries.get id
    { app with
      registries := app.registries.set id
        { found with
          conf := found.conf.map fun _ => conf } }
| .factory id =>
    match app.factories.get id with
    | .keyspaces found =>
        app.setFactory id (.keyspaces
          { found with
            conf := found.conf.map fun _ => conf })
    | _ => app
| .context id =>
    let found := app.contexts.get id
    app.setContext id
      { found with
        arguments := found.arguments.map (setArgument conf) }

end Holder

/-
  A step is an operation, during which paths find what an
  importer says, or a change of the values of a configuration.
-/
inductive Step
| operation (importer : Importer) (operation : Operation)
| reconfigure (holder : Holder) (conf : Config)

namespace Step

/- The application after a step. -/
def perform (app : Application) : Step → Application
| .operation importer done => done.perform importer app
| .reconfigure holder conf => holder.reconfigure app conf

end Step

------------------------------------------------------------
-- Runs
------------------------------------------------------------

namespace Application

/- The application after some steps in a row. -/
def run (app : Application) : List Step → Application
| [] => app
| step :: steps => (step.perform app).run steps

/- What each of some steps keeps holds after them. -/
theorem run_induction
    {motive : Application → Prop}
    {steps : List Step}
    (hStep :
      ∀ step ∈ steps, ∀ app, motive app →
        motive (step.perform app))
    {app : Application}
    (hApp : motive app) : motive (app.run steps) := by
  induction steps generalizing app with
  | nil => exact hApp
  | cons step steps ih =>
      have hFirst := hStep step List.mem_cons_self app hApp
      refine ih ?_ hFirst
      intro other hOther
      exact hStep other (List.mem_cons_of_mem _ hOther)

end Application

end Keyspaces
