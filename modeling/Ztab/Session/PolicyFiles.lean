import Ztab.Session.Policies
import Ztab.Shared.Effect
import Ztab.Tee.RaisingSchemas

set_option autoImplicit false

/-!
# Policy files

`PolicyRegistry::LoadFromDirectory`, and how far the output schema of a file reaches: through
the registry and the sessions of its class to the check of every answer.
-/

namespace Ztab

-- An entry of the directory; a file that cannot be opened has no contents.
structure PolicyFile where
  filename : String
  contents : Option Bytes
  deriving DecidableEq

namespace PolicyFile

def isJson (file : PolicyFile) : Bool :=
  ".json".toList.isSuffixOf file.filename.toList

/-- The file is one of those that are read, and it parses to this document. -/
def Declares (json : Nlohmann) (file : PolicyFile) (doc : Json) : Prop :=
  file.isJson = true ∧ ∃ text, file.contents = some text ∧
    json.parse text (fun _ => true) = .ok doc

end PolicyFile

namespace Json

def asString? : Json → Option String
  | .string value => some value
  | _ => none

theorem asString?_eq_some {value : Json} {text : String} :
    value.asString? = some text ↔ value = .string text := by
  cases value <;> simp [asString?]

def isObject : Json → Bool
  | .object _ => true
  | _ => false

theorem isObject_iff {value : Json} : value.isObject = true ↔ ∃ members, value = .object members := by
  cases value <;> simp [isObject]

def asObject? (value : Json) : Option Json :=
  if value.isObject then some value else none

theorem asObject?_eq_some {value object : Json} :
    value.asObject? = some object ↔ ∃ members, value = .object members ∧ object = .object members := by
  cases value <;> simp [asObject?, isObject, eq_comm]

end Json

namespace PolicyRegistry

def requiredField {α : Type} (filepath name : String) (kind : Json → Option α) (doc : Json) :
    Outcome α :=
  match (doc.member name).bind kind with
  | some value => .ok value
  | none => refuse .invalidArgument
      ("Missing or invalid '" ++ name ++ "' in '" ++ filepath ++ "'")

-- An output schema is taken over when it is an object, and left out when it is anything else.
def defaultOutputSchema (json : Nlohmann) (doc : Json) : String :=
  match (doc.member "output_schema").bind Json.asObject? with
  | some schema => json.dump schema
  | none => ""

def policyDefinition (json : Nlohmann) (filepath : String) (doc : Json) :
    Outcome (String × PolicyDefinition) := do
  let policyClass ← requiredField filepath "policy_class" Json.asString? doc
  let promptTemplate ← requiredField filepath "prompt_template" Json.asString? doc
  let inputSchema ← requiredField filepath "input_schema" Json.asObject? doc
  return (policyClass,
    { promptTemplate
      defaultInputSchemaJson := json.dump inputSchema
      defaultOutputSchemaJson := defaultOutputSchema json doc })

def parsePolicy (json : Nlohmann) (filepath : String) (contents : Option Bytes) : Outcome Json :=
  match contents with
  | none => refuse .internal ("Cannot open policy file: '" ++ filepath ++ "'")
  | some text =>
    match json.parse text (fun _ => true) with
    | .ok doc => .ok doc
    | .error (.parseError what) =>
      refuse .invalidArgument ("Malformed JSON in '" ++ filepath ++ "': " ++ what)
    -- Only parse_error is caught.
    | .error other => .error (.raised other)

def loadPolicy (json : Nlohmann) (registry : PolicyRegistry) (filepath : String)
    (contents : Option Bytes) : Outcome PolicyRegistry := do
  let doc ← parsePolicy json filepath contents
  let (policyClass, definition) ← policyDefinition json filepath doc
  if policyClass ∈ registry then
    refuse .alreadyExists ("Duplicate policy_class '" ++ policyClass ++ "' found in '" ++
      filepath ++ "'. Each policy_class must be unique.")
  else return registry.insert policyClass definition

-- The registry keeps what was loaded before a failure.
def loadEntries (json : Nlohmann) (dirPath : String) (registry : PolicyRegistry) (loaded : Nat) :
    List PolicyFile → PolicyRegistry × Outcome Nat
  | [] => (registry, .ok loaded)
  | file :: rest =>
    if file.isJson then
      match loadPolicy json registry (dirPath ++ "/" ++ file.filename) file.contents with
      | .ok extended => loadEntries json dirPath extended (loaded + 1) rest
      | .error failure => (registry, .error failure)
    else loadEntries json dirPath registry loaded rest

/-- The entries come in the order of `readdir`; a directory that cannot be opened has none. -/
def loadFromDirectory (json : Nlohmann) (registry : PolicyRegistry) (dirPath : String)
    (dir : Option (List PolicyFile)) : PolicyRegistry × Outcome Unit :=
  match dir with
  | none => (registry, refuse .notFound ("Policy directory not found: '" ++ dirPath ++ "'"))
  | some files =>
    match loadEntries json dirPath registry 0 files with
    | (registry, .error failure) => (registry, .error failure)
    | (registry, .ok 0) =>
      (registry, refuse .notFound ("No *.json policy files found in '" ++ dirPath ++ "'"))
    | (registry, .ok _) => (registry, .ok ())

section

variable {json : Nlohmann} {registry extended : PolicyRegistry} {filepath : String}

theorem requiredField_eq_ok {α : Type} {name : String} {kind : Json → Option α} {doc : Json}
    {value : α} :
    requiredField filepath name kind doc = .ok value ↔
      ∃ member, doc.member name = some member ∧ kind member = some value := by
  rw [← Option.bind_eq_some_iff]
  unfold requiredField
  cases (doc.member name).bind kind <;> simp [refuse]

theorem parsePolicy_eq_ok {contents : Option Bytes} {doc : Json} :
    parsePolicy json filepath contents = .ok doc ↔
      ∃ text, contents = some text ∧ json.parse text (fun _ => true) = .ok doc := by
  cases contents with
  | none => simp [parsePolicy, refuse]
  | some text =>
    simp only [parsePolicy, Option.some.injEq, exists_eq_left']
    split
    next found => simp [found]
    next found => simp [found, refuse]
    next found => simp [found]

def Defines (json : Nlohmann) (contents : Option Bytes) (policyClass : String)
    (definition : PolicyDefinition) : Prop :=
  ∃ text doc members, contents = some text ∧ json.parse text (fun _ => true) = .ok doc ∧
    doc.member "policy_class" = some (.string policyClass) ∧
    doc.member "prompt_template" = some (.string definition.promptTemplate) ∧
    doc.member "input_schema" = some (.object members) ∧
    definition.defaultInputSchemaJson = json.dump (.object members) ∧
    definition.defaultOutputSchemaJson = defaultOutputSchema json doc

theorem policyDefinition_eq_ok {doc : Json} {policyClass : String} {definition : PolicyDefinition} :
    policyDefinition json filepath doc = .ok (policyClass, definition) ↔
      ∃ members, doc.member "policy_class" = some (.string policyClass) ∧
        doc.member "prompt_template" = some (.string definition.promptTemplate) ∧
        doc.member "input_schema" = some (.object members) ∧
        definition.defaultInputSchemaJson = json.dump (.object members) ∧
        definition.defaultOutputSchemaJson = defaultOutputSchema json doc := by
  unfold policyDefinition
  constructor
  · intro defined
    obtain ⟨name, named, defined⟩ := Effect.bind_eq_ok.mp defined
    obtain ⟨prompt, prompted, defined⟩ := Effect.bind_eq_ok.mp defined
    obtain ⟨input, given, defined⟩ := Effect.bind_eq_ok.mp defined
    cases defined
    obtain ⟨_, named, string⟩ := requiredField_eq_ok.mp named
    cases Json.asString?_eq_some.mp string
    obtain ⟨_, prompted, string⟩ := requiredField_eq_ok.mp prompted
    cases Json.asString?_eq_some.mp string
    obtain ⟨_, schema, object⟩ := requiredField_eq_ok.mp given
    obtain ⟨members, rfl, rfl⟩ := Json.asObject?_eq_some.mp object
    exact ⟨members, named, prompted, schema, rfl, rfl⟩
  · rintro ⟨members, named, prompted, given, input, output⟩
    refine Effect.bind_eq_ok.mpr ⟨_, requiredField_eq_ok.mpr ⟨_, named, rfl⟩, ?_⟩
    refine Effect.bind_eq_ok.mpr ⟨_, requiredField_eq_ok.mpr ⟨_, prompted, rfl⟩, ?_⟩
    refine Effect.bind_eq_ok.mpr ⟨_, requiredField_eq_ok.mpr ⟨_, given, rfl⟩, ?_⟩
    rw [← input, ← output]
    rfl

theorem loadPolicy_eq_ok {contents : Option Bytes} :
    loadPolicy json registry filepath contents = .ok extended ↔
      ∃ policyClass definition, Defines json contents policyClass definition ∧
        policyClass ∉ registry ∧ extended = registry.insert policyClass definition := by
  unfold loadPolicy
  constructor
  · intro loaded
    obtain ⟨doc, parsed, loaded⟩ := Effect.bind_eq_ok.mp loaded
    obtain ⟨text, opened, parsed⟩ := parsePolicy_eq_ok.mp parsed
    obtain ⟨⟨policyClass, definition⟩, defined, loaded⟩ := Effect.bind_eq_ok.mp loaded
    obtain ⟨members, fields⟩ := policyDefinition_eq_ok.mp defined
    dsimp only at loaded
    split at loaded
    next => simp [refuse] at loaded
    next absent =>
      cases loaded
      exact ⟨policyClass, definition, ⟨text, doc, members, opened, parsed, fields⟩, absent, rfl⟩
  · rintro ⟨policyClass, definition, ⟨text, doc, members, opened, parsed, fields⟩, absent, rfl⟩
    refine Effect.bind_eq_ok.mpr ⟨doc, parsePolicy_eq_ok.mpr ⟨text, opened, parsed⟩, ?_⟩
    refine Effect.bind_eq_ok.mpr ⟨_, policyDefinition_eq_ok.mpr ⟨members, fields⟩, ?_⟩
    simp only [absent, if_false]
    rfl

structure Registers (json : Nlohmann) (registry : PolicyRegistry) (doc : Json)
    (policyClass : String) (definition : PolicyDefinition) : Prop where
  named : doc.member "policy_class" = some (.string policyClass)
  outputSchema : definition.defaultOutputSchemaJson = defaultOutputSchema json doc
  registered : registry.lookup policyClass = some definition

theorem loadEntries_ok {dirPath : String} {loaded total : Nat} {files : List PolicyFile}
    (done : loadEntries json dirPath registry loaded files = (extended, .ok total)) :
    (∀ policyClass definition, registry.lookup policyClass = some definition →
      extended.lookup policyClass = some definition) ∧
    ∀ file ∈ files, ∀ doc, file.Declares json doc →
      ∃ policyClass definition, Registers json extended doc policyClass definition := by
  induction files generalizing registry loaded with
  | nil =>
    cases done
    exact ⟨fun _ _ found => found, by simp⟩
  | cons file rest ih =>
    simp only [loadEntries] at done
    split at done
    next read =>
      split at done
      next middle added =>
        obtain ⟨kept, listed⟩ := ih done
        obtain ⟨policyClass, definition,
          ⟨text, doc, members, opened, parsed, named, -, -, -, schema⟩, absent, rfl⟩ :=
            loadPolicy_eq_ok.mp added
        have stored := kept policyClass definition (AList.lookup_insert registry)
        constructor
        · intro other held found
          apply kept
          have different : other ≠ policyClass := by
            rintro rfl
            exact absent ((FlatHashMap.mem_iff_lookup registry other).mpr ⟨held, found⟩)
          rw [AList.lookup_insert_ne different]
          exact found
        · intro candidate member declared declares
          rcases List.mem_cons.mp member with rfl | later
          · obtain ⟨-, same, contents, reads⟩ := declares
            rw [opened] at contents
            cases contents
            rw [parsed] at reads
            cases reads
            exact ⟨policyClass, definition, named, schema, stored⟩
          · exact listed candidate later declared declares
      next => cases done
    next skipped =>
      obtain ⟨kept, listed⟩ := ih done
      refine ⟨kept, ?_⟩
      intro candidate member declared declares
      rcases List.mem_cons.mp member with rfl | later
      · exact absurd declares.1 skipped
      · exact listed candidate later declared declares

theorem loadFromDirectory_ok {dirPath : String} {files : List PolicyFile}
    (accepted : loadFromDirectory json registry dirPath (some files) = (extended, .ok ())) :
    ∀ file ∈ files, ∀ doc, file.Declares json doc →
      ∃ policyClass definition, Registers json extended doc policyClass definition := by
  simp only [loadFromDirectory] at accepted
  split at accepted
  next => cases accepted
  next => simp [refuse] at accepted
  next entries =>
    cases accepted
    exact (loadEntries_ok entries).2

end

end PolicyRegistry

/-- The outputs of the class are checked against this schema, the whole of it, and every result
one of its sessions was closed with is valid under it, whatever else the server runs on. -/
structure SchemaKept (json : Nlohmann) (registry : PolicyRegistry) (policyClass : String)
    (schema : Json) : Prop where
  checked : ∃ definition, registry.lookup policyClass = some definition ∧
    definition.defaultOutputSchemaJson ≠ "" ∧
    parseJsonSafely json (utf8 definition.defaultOutputSchemaJson) = .ok schema
  validated : ∀ env : Environment, env.registry = registry → env.json = json → env.NeverRepeats →
    ∀ system, (machine env).Reachable system → ∀ id session,
      system.manager.sessions.lookup id = some session → session.state = .CLOSED →
      session.policy.policyClass = policyClass →
      ∃ tree, json.read session.resultJson = .complete tree ∧
        validateNode env.partialMatch (tree.readAs .lastWins) schema = .ok ()

def Rereads (json : Nlohmann) (value : Json) : Prop :=
  json.parse (utf8 (json.dump value)) (fun _ => true) = .ok value

theorem defaultOutputSchema_object {json : Nlohmann} {doc schema : Json}
    (declared : doc.member "output_schema" = some schema) (object : schema.isObject = true) :
    PolicyRegistry.defaultOutputSchema json doc = json.dump schema := by
  simp [PolicyRegistry.defaultOutputSchema, declared, Json.asObject?, object]

theorem defaultOutputSchema_other {json : Nlohmann} {doc schema : Json}
    (declared : doc.member "output_schema" = some schema) (other : schema.isObject ≠ true) :
    PolicyRegistry.defaultOutputSchema json doc = "" := by
  simp [PolicyRegistry.defaultOutputSchema, declared, Json.asObject?, other]

section Kept

variable {json : Nlohmann} {registry : PolicyRegistry} {doc schema : Json} {policyClass : String}
  {definition : PolicyDefinition}

theorem schemaKept_of_shallow (written : ∀ members, json.dump (.object members) ≠ "")
    (registers : PolicyRegistry.Registers json registry doc policyClass definition)
    (declared : doc.member "output_schema" = some schema) (rereads : Rereads json schema)
    (object : schema.isObject = true) (shallow : schema.depth ≤ kMaxJsonParseDepth) :
    SchemaKept json registry policyClass schema := by
  have taken : definition.defaultOutputSchemaJson = json.dump schema := by
    rw [registers.outputSchema, defaultOutputSchema_object declared object]
  have nonempty : json.dump schema ≠ "" := by
    obtain ⟨members, rfl⟩ := Json.isObject_iff.mp object
    exact written members
  have parsed : parseJsonSafely json (utf8 (json.dump schema)) = .ok schema := by
    rw [parseJsonSafely_of_parse rereads, Json.clip_eq_self_iff.mpr shallow]
  refine ⟨⟨definition, registers.registered, taken ▸ nonempty, taken ▸ parsed⟩, ?_⟩
  rintro env rfl rfl fresh system reachable id session stored closed rfl
  have registered := registered_of_reachable reachable id session stored
  have same : session.policyDef = definition :=
    Option.some.inj (registered.definition.symm.trans registers.registered)
  have schemaText : session.outputSchema = env.json.dump schema := by
    rw [Session.outputSchema_builtIn registered.outputSchema, same, taken]
  have delivers := (workers_of_reachable fresh reachable).closed id session stored closed
  have valid := delivers.valid (schemaText ▸ nonempty)
  rw [schemaText] at valid
  obtain ⟨tree, whole, read, reparsed, passed⟩ := validateJsonSchema_ok valid
  cases parsed.symm.trans reparsed
  exact ⟨tree, read, passed⟩

theorem shallow_of_schemaKept (kept : SchemaKept json registry policyClass schema)
    (registers : PolicyRegistry.Registers json registry doc policyClass definition)
    (declared : doc.member "output_schema" = some schema) (rereads : Rereads json schema) :
    schema.isObject = true ∧ schema.depth ≤ kMaxJsonParseDepth := by
  obtain ⟨other, found, nonempty, parsed⟩ := kept.checked
  rw [← Option.some.inj (registers.registered.symm.trans found), registers.outputSchema] at nonempty parsed
  have object : schema.isObject = true := by
    by_contra lost
    exact nonempty (defaultOutputSchema_other declared lost)
  refine ⟨object, ?_⟩
  rw [defaultOutputSchema_object declared object, parseJsonSafely_of_parse rereads] at parsed
  exact Json.clip_eq_self_iff.mp (Except.ok.inj parsed)

end Kept

/-- The declared output schemas are kept exactly when each is an object no deeper than the parser
goes. -/
theorem output_schemas_kept_iff (json : Nlohmann)
    (written : ∀ members, json.dump (.object members) ≠ "")
    (dirPath : String) (files : List PolicyFile) (registry : PolicyRegistry)
    (accepted : PolicyRegistry.loadFromDirectory json ∅ dirPath (some files) =
      (registry, .ok ()))
    (rereads : ∀ file ∈ files, ∀ doc schema, file.Declares json doc →
      doc.member "output_schema" = some schema → Rereads json schema) :
    (∀ file ∈ files, ∀ doc schema policyClass, file.Declares json doc →
        doc.member "policy_class" = some (.string policyClass) →
        doc.member "output_schema" = some schema →
        SchemaKept json registry policyClass schema) ↔
      ∀ file ∈ files, ∀ doc schema, file.Declares json doc →
        doc.member "output_schema" = some schema →
        schema.isObject = true ∧ schema.depth ≤ kMaxJsonParseDepth := by
  constructor
  · intro kept file member doc schema declares declared
    obtain ⟨policyClass, definition, registers⟩ :=
      PolicyRegistry.loadFromDirectory_ok accepted file member doc declares
    exact shallow_of_schemaKept (kept file member doc schema policyClass declares registers.named
      declared) registers declared (rereads file member doc schema declares declared)
  · intro shallow file member doc schema policyClass declares named declared
    obtain ⟨other, definition, registers⟩ :=
      PolicyRegistry.loadFromDirectory_ok accepted file member doc declares
    have same : other = policyClass := by
      have names := registers.named.symm.trans named
      simpa using names
    subst same
    obtain ⟨object, depth⟩ := shallow file member doc schema declares declared
    exact schemaKept_of_shallow written registers declared
      (rereads file member doc schema declares declared) object depth

def calendarFile (outputSchema : String) : PolicyFile where
  filename := "calendar.json"
  contents := some (utf8 ("\x7b\"policy_class\": \"calendar\", \"prompt_template\": \"t\", " ++
    "\"input_schema\": \x7b\x7d, \"output_schema\": " ++ outputSchema ++ "\x7d"))

def calendarJson : Nlohmann := Reader.library (fun _ => "0.0")

def calendarRegistry (outputSchema : String) : PolicyRegistry :=
  (PolicyRegistry.loadFromDirectory calendarJson ∅ "policies" (some [calendarFile outputSchema])).1

def parsedFile (outputSchema : String) : Option Json :=
  (calendarFile outputSchema).contents.bind fun text =>
    (calendarJson.parse text (fun _ => true)).toOption

theorem calendarFile_declares {outputSchema : String} {doc : Json} :
    (calendarFile outputSchema).Declares calendarJson doc ↔ parsedFile outputSchema = some doc := by
  constructor
  · rintro ⟨-, text, opened, parsed⟩
    rw [parsedFile, opened, Option.bind_some, parsed]
    rfl
  · intro parsed
    have named : ".json".toList.isSuffixOf "calendar.json".toList = true := by decide
    obtain ⟨text, opened, read⟩ := Option.bind_eq_some_iff.mp parsed
    exact ⟨named, text, opened, Effect.ok_of_toOption read⟩

theorem calendarRegistry_accepted {outputSchema : String}
    (accepted : (PolicyRegistry.loadFromDirectory calendarJson ∅ "policies"
      (some [calendarFile outputSchema])).2.isOk = true) :
    PolicyRegistry.loadFromDirectory calendarJson ∅ "policies" (some [calendarFile outputSchema]) =
      (calendarRegistry outputSchema, .ok ()) := by
  refine Prod.ext rfl ?_
  generalize (PolicyRegistry.loadFromDirectory calendarJson ∅ "policies"
    (some [calendarFile outputSchema])).2 = outcome at accepted
  cases outcome with
  | ok value => rfl
  | error failure => cases accepted

theorem calendarJson_written (members : List (String × Json)) :
    calendarJson.dump (.object members) ≠ "" := by
  intro empty
  have lengths := congrArg (fun text => text.toList.length) empty
  simp [calendarJson, Reader.library, Reader.compact] at lengths

def objectDoc : Json := .object [("input_schema", .object []),
  ("output_schema", .object [("type", .string "object")]), ("policy_class", .string "calendar"),
  ("prompt_template", .string "t")]

theorem object_directory_keeps_schema :
    (calendarFile "\x7b\"type\": \"object\"\x7d").Declares calendarJson objectDoc ∧
      SchemaKept calendarJson (calendarRegistry "\x7b\"type\": \"object\"\x7d") "calendar"
        (.object [("type", .string "object")]) := by
  have parsed : parsedFile "\x7b\"type\": \"object\"\x7d" = some objectDoc := rfl
  have declared (file : PolicyFile) (doc schema : Json)
      (member : file ∈ [calendarFile "\x7b\"type\": \"object\"\x7d"])
      (declares : file.Declares calendarJson doc)
      (found : doc.member "output_schema" = some schema) :
      schema = .object [("type", .string "object")] := by
    cases List.mem_singleton.mp member
    cases parsed.symm.trans (calendarFile_declares.mp declares)
    exact (Option.some.inj found).symm
  refine ⟨calendarFile_declares.mpr parsed, ?_⟩
  refine (output_schemas_kept_iff calendarJson calendarJson_written "policies" _ _
    (calendarRegistry_accepted (by decide +kernel)) ?_).mpr ?_ _ (List.mem_singleton.mpr rfl)
    objectDoc _ "calendar" (calendarFile_declares.mpr parsed) rfl rfl
  · intro file member doc schema declares found
    cases declared file doc schema member declares found
    rfl
  · intro file member doc schema declares found
    cases declared file doc schema member declares found
    exact ⟨rfl, by decide⟩

theorem text_schema_lost :
    ∃ doc, (calendarFile "\"object\"").Declares calendarJson doc ∧
      doc.member "policy_class" = some (.string "calendar") ∧
      doc.member "output_schema" = some (.string "object") ∧
      PolicyRegistry.loadFromDirectory calendarJson ∅ "policies"
        (some [calendarFile "\"object\""]) = (calendarRegistry "\"object\"", .ok ()) ∧
      ¬ SchemaKept calendarJson (calendarRegistry "\"object\"") "calendar" (.string "object") := by
  have facts : (parsedFile "\"object\"").map (fun doc =>
      ((doc.member "policy_class").bind Json.asString?,
        (doc.member "output_schema").bind Json.asString?)) =
          some (some "calendar", some "object") := by
    decide +kernel
  obtain ⟨doc, parsed, both⟩ := Option.map_eq_some_iff.mp facts
  obtain ⟨class_, output⟩ := Prod.mk.inj both
  obtain ⟨name, named, text⟩ := Option.bind_eq_some_iff.mp class_
  obtain ⟨schema, declared, spelled⟩ := Option.bind_eq_some_iff.mp output
  cases Json.asString?_eq_some.mp text
  cases Json.asString?_eq_some.mp spelled
  refine ⟨doc, calendarFile_declares.mpr parsed, named, declared,
    calendarRegistry_accepted (by decide +kernel), ?_⟩
  intro kept
  -- The answer is no JSON at all, and it is delivered.
  have closed : (((machine (countingEnv (calendarRegistry "\"object\""))).after
      (machine (countingEnv (calendarRegistry "\"object\""))).initial
      (calendarSubmissions ++ calendarInference "no")).manager.sessions.lookup "a").map
        (fun session => (session.state, session.policy.policyClass, session.resultJson)) =
          some (.CLOSED, "calendar", utf8 "no") := by
    decide +kernel
  obtain ⟨session, stored, held⟩ := Option.map_eq_some_iff.mp closed
  simp only [Prod.mk.injEq] at held
  obtain ⟨state, ofClass, result⟩ := held
  obtain ⟨tree, read, -⟩ := kept.validated (countingEnv (calendarRegistry "\"object\"")) rfl rfl
    (countingEnv_neverRepeats _) _ ⟨_, rfl⟩ "a" session stored state ofClass
  rw [result] at read
  cases read

/-- What is parsed from a schema of a loaded policy that passes the check of CreateSession. -/
def AcceptedSchema (env : Environment) (dirPath : String) (files : List PolicyFile)
    (schema : Json) : Prop :=
  ∃ registry policyClass definition,
    PolicyRegistry.loadFromDirectory env.json ∅ dirPath (some files) = (registry, .ok ()) ∧
    registry.lookup policyClass = some definition ∧
    SessionManager.checkBuiltInSchema env "input_schema_json" definition.defaultInputSchemaJson =
      .ok () ∧
    SessionManager.checkBuiltInSchema env "output_schema_json" definition.defaultOutputSchemaJson =
      .ok () ∧
    ∃ text ∈ [definition.defaultInputSchemaJson, definition.defaultOutputSchemaJson], text ≠ "" ∧
      parseJsonSafely env.json (utf8 text) = .ok schema

theorem AcceptedSchema.wellFormed {env : Environment} {dirPath : String} {files : List PolicyFile}
    {schema : Json} (accepted : AcceptedSchema env dirPath files schema) : schema.WellFormed := by
  obtain ⟨_, _, _, _, _, _, _, text, _, _, parsed⟩ := accepted
  obtain ⟨tree, -, rfl⟩ := parseJsonSafely_ok parsed
  exact tree.readAs_wellFormed.clip kMaxJsonParseDepth

/-- Every check against an accepted schema ends with a status exactly when no accepted schema has
a keyword of the wrong JSON type that the validator can get to. -/
theorem accepted_schemas_enforceable_iff (env : Environment) (dirPath : String)
    (files : List PolicyFile) :
    (∀ schema, AcceptedSchema env dirPath files schema →
        ∀ value, ¬ (validateNode env.partialMatch value schema).Raises) ↔
      ∀ schema, AcceptedSchema env dirPath files schema → ¬ Raisable env.partialMatch schema := by
  refine forall₂_congr fun schema accepted => ?_
  rw [raisable_iff accepted.wellFormed, not_exists]

def unionSchema : String := "\x7b\"type\": [\"object\", \"null\"]\x7d"

/-- The list of types is accepted as a schema, and the first answer raises. -/
theorem union_type_raises :
    ∃ schema, AcceptedSchema (countingEnv (calendarRegistry unionSchema)) "policies"
        [calendarFile unionSchema] schema ∧
      (validateNode (countingEnv (calendarRegistry unionSchema)).partialMatch (.object [])
        schema).Raises := by
  have accepted := calendarRegistry_accepted (by decide +kernel : (PolicyRegistry.loadFromDirectory
    calendarJson ∅ "policies" (some [calendarFile unionSchema])).2.isOk = true)
  have facts : ((calendarRegistry unionSchema).lookup "calendar").map (fun definition =>
      (decide (SessionManager.checkBuiltInSchema (countingEnv (calendarRegistry unionSchema))
          "input_schema_json" definition.defaultInputSchemaJson = .ok ()),
        decide (SessionManager.checkBuiltInSchema (countingEnv (calendarRegistry unionSchema))
          "output_schema_json" definition.defaultOutputSchemaJson = .ok ()),
        definition.defaultOutputSchemaJson)) =
      some (true, true, "\x7b\"type\":[\"object\",\"null\"]\x7d") := by
    decide +kernel
  obtain ⟨definition, found, held⟩ := Option.map_eq_some_iff.mp facts
  simp only [Prod.mk.injEq, decide_eq_true_eq] at held
  obtain ⟨input, output, text⟩ := held
  have read : ((parseJsonSafely calendarJson
      (utf8 "\x7b\"type\":[\"object\",\"null\"]\x7d")).toOption.bind
        (fun schema => (schema.member "type").map Json.asString?)) = some none := by
    decide +kernel
  obtain ⟨schema, parsed, typed⟩ := Option.bind_eq_some_iff.mp read
  obtain ⟨type, given, other⟩ := Option.map_eq_some_iff.mp typed
  refine ⟨schema, ⟨_, "calendar", definition, accepted, found, input, output,
    definition.defaultOutputSchemaJson, by simp, ?_, ?_⟩, ?_⟩
  · rw [text]
    decide
  · rw [text]
    exact Effect.ok_of_toOption parsed
  · refine Trips.raises (.type given fun name same => ?_)
    rw [same] at other
    cases other

end Ztab
