import Ztab.Session.Workers
import Ztab.Tee.CutSchemas

set_option autoImplicit false

/-!
# The output gate

A result is delivered only after it passed the output schema of its own session. What passed is
the value of the text, and what is delivered is the text itself; the schema it passed is the
declared one down to the depth at which the parser cuts it.
-/

namespace Ztab

namespace SessionManager

-- The schemas of a session are the built-in ones of its policy definition.
def BuiltInSchemas (manager : SessionManager) : Prop :=
  ∀ id session, manager.sessions.lookup id = some session →
    session.policy.inputSchemaJson = session.policyDef.defaultInputSchemaJson ∧
      session.policy.outputSchemaJson = session.policyDef.defaultOutputSchemaJson

end SessionManager

theorem ManagerStep.builtInSchemas {env : Environment} {actor : Actor} {before after : SessionManager}
    (step : ManagerStep env before actor after) (builtIn : before.BuiltInSchemas) :
    after.BuiltInSchemas := by
  intro id session found
  cases step.origin found with
  | @stepped _ held _ stored step =>
    rw [step.identity.policy, step.identity.policyDef]
    exact builtIn id held stored
  | @joined held token clientNonce stored waiting => exact builtIn id held stored
  | created now creator invitation recent named admitted => exact ⟨rfl, rfl⟩

theorem builtInSchemas_of_reachable {env : Environment} {system : System}
    (reachable : (machine env).Reachable system) : system.manager.BuiltInSchemas :=
  (machine env).reachable_invariant (fun system => system.manager.BuiltInSchemas)
    (fun id session stored => by simp [machine] at stored)
    (fun system action builtIn => (system.step_manager env action).builtInSchemas builtIn)
    system reachable

theorem Session.outputSchema_builtIn {session : Session}
    (builtIn : session.policy.outputSchemaJson = session.policyDef.defaultOutputSchemaJson) :
    session.outputSchema = session.policyDef.defaultOutputSchemaJson := by
  unfold outputSchema
  split_ifs
  · rfl
  · exact builtIn

/-- The gate: what a CLOSED session holds is a checked answer to its own prompt. -/
theorem output_gate_of_reachable (env : Environment) (fresh : env.NeverRepeats) (system : System)
    (reachable : (machine env).Reachable system) (id : String) (session : Session)
    (stored : system.manager.sessions.lookup id = some session) (closed : session.state = .CLOSED) :
    session.resultJson ≠ [] ∧
      (∃ suffix text, ⟨id, session.buildPrompt suffix, text⟩ ∈ system.history.generations ∧
        session.resultJson = stripMarkdownCodeFences text) ∧
      (session.policyDef.defaultOutputSchemaJson ≠ "" →
        validateJsonSchema env.json env.partialMatch session.resultJson
          session.policyDef.defaultOutputSchemaJson = .ok ()) := by
  have delivers := (workers_of_reachable fresh reachable).closed id session stored closed
  have named := (sound_of_reachable fresh reachable).named id session stored
  have builtIn := (builtInSchemas_of_reachable reachable id session stored).2
  refine ⟨delivers.nonempty, named ▸ delivers.generated, ?_⟩
  rw [← Session.outputSchema_builtIn builtIn]
  exact delivers.valid

theorem calendar_output_gate :
    ∃ session, ((machine calendarEnv).after (machine calendarEnv).initial
        (calendarSubmissions ++ calendarInference "\x7b\x7d")).manager.sessions.lookup "a" =
        some session ∧
      validateJsonSchema calendarEnv.json calendarEnv.partialMatch session.resultJson
        session.policyDef.defaultOutputSchemaJson = .ok () := by
  have closed : (((machine calendarEnv).after (machine calendarEnv).initial
      (calendarSubmissions ++ calendarInference "\x7b\x7d")).manager.sessions.lookup "a").map
        (fun session => (session.state, session.policyDef)) = some (.CLOSED, calendarPolicy) := by
    decide +kernel
  obtain ⟨session, stored, held⟩ := Option.map_eq_some_iff.mp closed
  obtain ⟨state, definition⟩ := Prod.mk.inj held
  have gate := output_gate_of_reachable calendarEnv (countingEnv_neverRepeats _) _ ⟨_, rfl⟩ "a"
    session stored state
  exact ⟨session, stored, gate.2.2 (by rw [definition]; decide)⟩

/-- What the schema says too deep for the parser holds of the answer all the same. -/
def DeepPartMet (env : Environment) (text : Bytes) (schemaJson : String) : Prop :=
  ∀ tree schemaTree, env.json.read (stripMarkdownCodeFences text) = .complete tree →
    env.json.read (utf8 schemaJson) = .complete schemaTree →
    BelowCutMet env.partialMatch kMaxJsonParseDepth (tree.readAs .lastWins)
      (schemaTree.readAs .lastWins)

theorem deepPartMet_of_shallow (env : Environment) (text : Bytes) (schemaJson : String)
    (valid : validateJsonSchema env.json env.partialMatch (stripMarkdownCodeFences text) schemaJson =
      .ok ())
    (shallow : ∀ schemaTree, env.json.read (utf8 schemaJson) = .complete schemaTree →
      (schemaTree.readAs .lastWins).depth ≤ kMaxJsonParseDepth) : DeepPartMet env text schemaJson := by
  obtain ⟨tree, schema, read, parsed, passed⟩ := validateJsonSchema_ok valid
  obtain ⟨schemaTree, schemaRead, rfl⟩ := parseJsonSafely_ok parsed
  intro other otherSchema otherRead otherSchemaRead
  cases read.symm.trans otherRead
  cases schemaRead.symm.trans otherSchemaRead
  refine (validateNode_ok_iff_belowCut kMaxJsonParseDepth passed).mp ?_
  rwa [Json.clip_eq_self_iff.mpr (shallow schemaTree schemaRead)] at passed

end Ztab
