import Ztab.Agent.Attestation
import Ztab.Audit.Trajectory

set_option autoImplicit false

/-!
# Fabricated sessions

The verdict on fabricated sessions needs an invitation token in the response of some call that
creates a session and a participant token in the arguments of some later tool. The two are never
compared, so the verdict says nothing about where the participant tokens come from.
-/

namespace Ztab.Audit

open Gather Occurrences

def FieldIn (python : Python) (fieldName : String) (text token : PyStr) : Prop :=
  ∃ before gap gap' after,
    text = before ++ (py ("\"" ++ fieldName ++ "\"") ++ (gap ++ PyJson.code 58 ::
      (gap' ++ PyJson.code 34 :: (token ++ PyJson.code 34 :: after)))) ∧
    (∀ point ∈ gap, isWhite python point = true) ∧ (∀ point ∈ gap', isWhite python point = true) ∧
    token ≠ [] ∧ ∀ point ∈ token, isAlphanumeric point = true

section Fields

variable {python : Python} {fieldName : String} {text token : PyStr}

theorem matchField_eq_some :
    matchField python fieldName text = some token ↔
      ∃ gap gap' after,
        text = py ("\"" ++ fieldName ++ "\"") ++ (gap ++ PyJson.code 58 ::
          (gap' ++ PyJson.code 34 :: (token ++ PyJson.code 34 :: after))) ∧
        (∀ point ∈ gap, isWhite python point = true) ∧ (∀ point ∈ gap', isWhite python point = true) ∧
        token ≠ [] ∧ ∀ point ∈ token, isAlphanumeric point = true := by
  have colonNotWhite : isWhite python (PyJson.code 58) = false := by simp [isWhite]
  have quoteNotWhite : isWhite python (PyJson.code 34) = false := by simp [isWhite]
  have quoteNotLetter : isAlphanumeric (PyJson.code 34) = false := by decide
  constructor
  · intro found
    simp only [matchField] at found
    split at found
    next opens =>
      obtain ⟨rest, rfl⟩ := List.isPrefixOf_iff_prefix.mp opens
      rw [List.drop_left] at found
      split at found
      next => cases found
      next colon afterColon split =>
        split at found
        next isColon =>
          subst isColon
          split at found
          next => cases found
          next quote afterQuote split' =>
            split at found
            next closes =>
              obtain ⟨rfl, written, closing⟩ := closes
              cases found
              obtain ⟨after, behind⟩ := List.head?_eq_some_iff.mp closing
              refine ⟨rest.takeWhile (isWhite python), afterColon.takeWhile (isWhite python), after, ?_,
                fun point listed => List.mem_takeWhile_imp listed,
                fun point listed => List.mem_takeWhile_imp listed, written,
                fun point listed => List.mem_takeWhile_imp listed⟩
              rw [← behind, List.takeWhile_append_dropWhile, ← split',
                List.takeWhile_append_dropWhile, ← split, List.takeWhile_append_dropWhile]
            next => cases found
        next => cases found
    next => cases found
  · rintro ⟨gap, gap', after, rfl, white, white', written, letters⟩
    have opens : (py ("\"" ++ fieldName ++ "\"")).isPrefixOf (py ("\"" ++ fieldName ++ "\"") ++
        (gap ++ PyJson.code 58 :: (gap' ++ PyJson.code 34 :: (token ++ PyJson.code 34 :: after)))) =
          true :=
      List.isPrefixOf_iff_prefix.mpr ⟨_, rfl⟩
    simp only [matchField, opens, if_true, List.drop_left, dropWhile_stop white colonNotWhite,
      dropWhile_stop white' quoteNotWhite, takeWhile_stop letters quoteNotLetter,
      dropWhile_stop letters quoteNotLetter, List.head?_cons]
    simp [written]

theorem searchField_some {token : PyStr} (found : searchField python fieldName text = some token) :
    FieldIn python fieldName text token := by
  induction text with
  | nil => cases found
  | cons point rest ih =>
    rw [searchField] at found
    split at found
    next value here =>
      cases found
      obtain ⟨gap, gap', after, same, fits⟩ := matchField_eq_some.mp here
      exact ⟨[], gap, gap', after, same, fits⟩
    next =>
      obtain ⟨before, gap, gap', after, rfl, fits⟩ := ih found
      exact ⟨point :: before, gap, gap', after, rfl, fits⟩

theorem searchField_of_match (here : matchField python fieldName text = some token) :
    searchField python fieldName text = some token := by
  cases text with
  | nil =>
    obtain ⟨gap, gap', after, same, -⟩ := matchField_eq_some.mp here
    simp at same
  | cons point rest => rw [searchField, here]

theorem searchField_isSome (present : FieldIn python fieldName text token) :
    ∃ found, searchField python fieldName text = some found := by
  obtain ⟨before, gap, gap', after, rfl, fits⟩ := present
  induction before with
  | nil => exact ⟨token, searchField_of_match (matchField_eq_some.mpr ⟨gap, gap', after, rfl, fits⟩)⟩
  | cons point before ih =>
    rw [List.cons_append, searchField]
    split
    next value here => exact ⟨value, rfl⟩
    next => exact ih

end Fields

structure Call (step mt tc : PyValue) (name : PyStr) : Prop where
  type : ∃ type, step.get "type" = .ok type ∧ isStep type "CORTEX_STEP_TYPE_MCP_TOOL" = true
  tool : step.get "mcpTool" (.dict []) = .ok mt
  call : mt.get "toolCall" (.dict []) = .ok tc
  named : tc.get "name" (.str []) = .ok (.str name)

def Shows (python : Python) (step : PyValue) (fieldName : String) (toolNames : List String)
    (searchArgs searchResponse : Bool) : Prop :=
  ∃ mt tc name sources text, Call step mt tc name ∧ allowsTool toolNames name = true ∧
    sourcesOf python step mt tc searchArgs searchResponse = .ok sources ∧ sources ≠ [] ∧
      joinLines sources = .ok text ∧ ∃ token, FieldIn python fieldName text token

section Calls

variable {python : Python} {step : PyValue} {fieldName : String} {toolNames : List String}
  {searchArgs searchResponse : Bool}

theorem toolCallOf_eq_some {mt tc : PyValue} {name : PyStr} :
    toolCallOf step = .ok (some (mt, tc, name)) ↔ Call step mt tc name := by
  simp only [toolCallOf, Effect.bind_eq_ok]
  constructor
  · rintro ⟨type, typed, rest⟩
    split at rest
    next isCall =>
      obtain ⟨_, tool, _, call, value, named, same⟩ := by simpa only [Effect.bind_eq_ok] using rest
      cases value with
      | str name =>
        cases same
        exact ⟨⟨type, typed, isCall⟩, tool, call, named⟩
      | _ => cases same
    next => cases rest
  · rintro ⟨⟨type, typed, isCall⟩, tool, call, named⟩
    refine ⟨type, typed, ?_⟩
    rw [if_pos isCall, tool]
    change (mt.get "toolCall" (.dict []) >>= _) = _
    rw [call]
    change (tc.get "name" (.str []) >>= _) = _
    rw [named]
    rfl

theorem searchSources_eq_some {sources : List PyValue} {token : PyStr} :
    searchSources python fieldName sources = .ok (some token) ↔
      sources ≠ [] ∧ ∃ text, joinLines sources = .ok text ∧
        searchField python fieldName text = some token := by
  cases sources with
  | nil => simp [searchSources]
  | cons source rest =>
    cases joined : joinLines (source :: rest) with
    | error raised => simp [searchSources, joined, Except.map]
    | ok text => simp [searchSources, joined, Except.map]

theorem extractFieldFromStep_eq_some {token : PyStr} :
    extractFieldFromStep python step fieldName toolNames searchArgs searchResponse =
        .ok (some token) ↔
      ∃ mt tc name sources text, Call step mt tc name ∧ allowsTool toolNames name = true ∧
        sourcesOf python step mt tc searchArgs searchResponse = .ok sources ∧ sources ≠ [] ∧
          joinLines sources = .ok text ∧ searchField python fieldName text = some token := by
  simp only [extractFieldFromStep, Effect.bind_eq_ok]
  constructor
  · rintro ⟨called, found, rest⟩
    match called with
    | none => cases rest
    | some (mt, tc, name) =>
      simp only at rest
      split at rest
      next allowed =>
        obtain ⟨sources, searched, result⟩ := Effect.bind_eq_ok.mp rest
        obtain ⟨nonempty, text, joined, present⟩ := searchSources_eq_some.mp result
        exact ⟨mt, tc, name, sources, text, toolCallOf_eq_some.mp found, allowed, searched, nonempty,
          joined, present⟩
      next => cases rest
  · rintro ⟨mt, tc, name, sources, text, call, allowed, searched, nonempty, joined, present⟩
    refine ⟨_, toolCallOf_eq_some.mpr call, ?_⟩
    simp only [allowed, if_true, searched]
    exact searchSources_eq_some.mpr ⟨nonempty, text, joined, present⟩

theorem extractFieldFromStep_some_iff :
    (∃ token, extractFieldFromStep python step fieldName toolNames searchArgs searchResponse =
        .ok (some token)) ↔
      Shows python step fieldName toolNames searchArgs searchResponse := by
  simp only [extractFieldFromStep_eq_some]
  constructor
  · rintro ⟨token, mt, tc, name, sources, text, call, allowed, searched, nonempty, joined, found⟩
    exact ⟨mt, tc, name, sources, text, call, allowed, searched, nonempty, joined, token,
      searchField_some found⟩
  · rintro ⟨mt, tc, name, sources, text, call, allowed, searched, nonempty, joined, _, present⟩
    obtain ⟨token, found⟩ := searchField_isSome present
    exact ⟨token, mt, tc, name, sources, text, call, allowed, searched, nonempty, joined, found⟩

theorem extractFieldFromStep_ne_nil {token : PyStr}
    (extracted : extractFieldFromStep python step fieldName toolNames searchArgs searchResponse =
      .ok (some token)) : token ≠ [] := by
  obtain ⟨_, _, _, _, _, -, -, -, -, -, found⟩ := extractFieldFromStep_eq_some.mp extracted
  obtain ⟨_, _, _, _, -, -, -, written, -⟩ := searchField_some found
  exact written

theorem tokenIn_ok_iff :
    (∃ here, tokenIn python fieldName toolNames searchArgs searchResponse step = .ok here) ↔
      ∃ found, extractFieldFromStep python step fieldName toolNames searchArgs searchResponse =
        .ok found := by
  simp only [tokenIn, Effect.bind_eq_ok]
  constructor
  · rintro ⟨_, found, extracted, -⟩
    exact ⟨found, extracted⟩
  · rintro ⟨found, extracted⟩
    cases found with
    | none => exact ⟨_, _, extracted, rfl⟩
    | some token => exact ⟨_, _, extracted, rfl⟩

theorem tokenIn_found_iff :
    (∃ here, tokenIn python fieldName toolNames searchArgs searchResponse step = .ok here ∧ here ≠ []) ↔
      Shows python step fieldName toolNames searchArgs searchResponse := by
  rw [← extractFieldFromStep_some_iff]
  simp only [tokenIn, Effect.bind_eq_ok]
  constructor
  · rintro ⟨here, ⟨found, extracted, same⟩, nonempty⟩
    cases found with
    | none =>
      cases same
      exact absurd rfl nonempty
    | some token => exact ⟨token, extracted⟩
  · rintro ⟨token, extracted⟩
    have written : token.isEmpty = false := by simpa using extractFieldFromStep_ne_nil extracted
    exact ⟨[token], ⟨some token, extracted, by simp only [written]; rfl⟩, by simp⟩

end Calls

def Searchable (python : Python) (steps : List PyValue) : Prop :=
  ∀ step ∈ steps,
    (∃ found, extractFieldFromStep python step "invitation_token" kCreateTools false true = .ok found) ∧
      ∃ found, extractFieldFromStep python step "participant_token" kTokenTools true false = .ok found

/-- Some creating call shows an invitation token in its response and some later tool is called with a
participant token. -/
structure Believable (python : Python) (steps : List PyValue) : Prop where
  searchable : Searchable python steps
  created : ∃ step ∈ steps, Shows python step "invitation_token" kCreateTools false true
  used : ∃ step ∈ steps, Shows python step "participant_token" kTokenTools true false

theorem fromKeys_isEmpty (tokens : List PyStr) : (fromKeys tokens).isEmpty = tokens.isEmpty := by
  cases tokens <;> rfl

theorem overwriteCheck_name (tokens : List PyStr) :
    (overwriteCheck tokens).name = "session_id_overwrite" := by
  unfold overwriteCheck
  split <;> rfl

theorem fabricationCheck_pass_iff {created used : List PyStr} :
    (fabricationCheck (fromKeys created) (fromKeys used)).name = "session_not_fabricated" ∧
        (fabricationCheck (fromKeys created) (fromKeys used)).result = .PASS ↔
      created ≠ [] ∧ used ≠ [] := by
  rw [fabricationCheck, fromKeys_isEmpty, fromKeys_isEmpty]
  cases created <;> cases used <;> simp

theorem reports_pass_iff {python : Python} {steps : List PyValue} :
    Reports (checkSessionFabrication python steps 1) "session_not_fabricated" .PASS ↔
      (∃ created, tokensIn python "invitation_token" kCreateTools false true steps = .ok created ∧
        created ≠ []) ∧
      ∃ used, tokensIn python "participant_token" kTokenTools true false steps = .ok used ∧ used ≠ [] := by
  simp only [Reports, checkSessionFabrication, ne_eq, not_true_eq_false, if_false, Effect.bind_eq_ok]
  constructor
  · rintro ⟨_, ⟨created, gathered, used, gathered', same⟩, check, listed, named, passed⟩
    cases same
    rcases List.mem_cons.mp listed with rfl | listed
    · rw [overwriteCheck_name] at named
      exact absurd named (by decide)
    · rw [List.mem_singleton] at listed
      subst listed
      obtain ⟨some_, someUsed⟩ := fabricationCheck_pass_iff.mp ⟨named, passed⟩
      exact ⟨⟨created, gathered, some_⟩, used, gathered', someUsed⟩
  · rintro ⟨⟨created, gathered, some_⟩, used, gathered', someUsed⟩
    exact ⟨_, ⟨created, gathered, used, gathered', rfl⟩, _,
      List.mem_cons_of_mem _ (List.mem_singleton_self _), fabricationCheck_pass_iff.mpr ⟨some_, someUsed⟩⟩

theorem reports_pass_iff_believable {python : Python} {steps : List PyValue} :
    Reports (checkSessionFabrication python steps 1) "session_not_fabricated" .PASS ↔
      Believable python steps := by
  rw [reports_pass_iff]
  simp only [tokensIn, gather_found_iff, tokenIn_ok_iff, tokenIn_found_iff]
  constructor
  · rintro ⟨⟨createSearched, created⟩, useSearched, used⟩
    exact ⟨fun step present => ⟨createSearched step present, useSearched step present⟩, created, used⟩
  · rintro ⟨searchable, created, used⟩
    exact ⟨⟨fun step present => (searchable step present).1, created⟩,
      fun step present => (searchable step present).2, used⟩

-- The arguments of a call, given as a dict or as the text of one.
def Arguments (parseFloat : PyStr → PyFloat) (tc : PyValue) (entries : List (PyStr × PyValue)) : Prop :=
  argumentsOf tc = .ok (.dict entries) ∨
    ∃ text, argumentsOf tc = .ok (.str text) ∧ PyJson.loads parseFloat text = some (.dict entries)

def Passed (parseFloat : PyStr → PyFloat) (step : PyValue) (token : PyStr) : Prop :=
  ∃ mt tc name entries, Call step mt tc name ∧ name ∈ kTokenTools.map py ∧
    Arguments parseFloat tc entries ∧
      PyValue.find (py "participant_token") entries = some (.str token)

def Answered (python : Python) (step : PyValue) (token : PyStr) : Prop :=
  ∃ mt tc name sources text, Call step mt tc name ∧
    name ∈ ["ztab_create_session", "ztab_join_session"].map py ∧
      responseSources python step mt = .ok sources ∧ joinLines sources = .ok text ∧ token <:+: text

def Traced (python : Python) (parseFloat : PyStr → PyFloat) (steps : List PyValue) : Prop :=
  ∀ before step after token, steps = before ++ step :: after → Passed parseFloat step token →
    ∃ earlier ∈ before, Answered python earlier token

/-- A trajectory of the creator that passes has traced its tokens exactly when it does so anyway: what
makes the verdict a PASS is that an invitation token and a participant token are seen at all. -/
theorem fabrication_pass_traces_iff (python : Python) (parseFloat : PyStr → PyFloat)
    (steps : List PyValue) :
    (Reports (checkSessionFabrication python steps 1) "session_not_fabricated" .PASS →
        Traced python parseFloat steps) ↔
      (¬ Believable python steps ∨ Traced python parseFloat steps) := by
  rw [reports_pass_iff_believable, imp_iff_not_or]

-- A session is created, and then a token is used that no response has given out.
def createStep : PyValue :=
  .dict [(py "type", .str (py "CORTEX_STEP_TYPE_MCP_TOOL")),
    (py "mcpTool", .dict [(py "toolCall", .dict [(py "name", .str (py "ztab_create_session"))]),
      (py "resultString", .str (py "\x7b\"invitation_token\": \"a1\"\x7d"))])]

def acceptStep : PyValue :=
  .dict [(py "type", .str (py "CORTEX_STEP_TYPE_MCP_TOOL")),
    (py "mcpTool", .dict [(py "toolCall", .dict [(py "name", .str (py "ztab_accept_policy")),
      (py "args", .dict [(py "participant_token", .str (py "b2"))])])])]

theorem made_up_token_passes :
    ¬ (Reports (checkSessionFabrication plainPython [createStep, acceptStep] 1)
          "session_not_fabricated" .PASS →
        Traced plainPython (fun _ => .nan) [createStep, acceptStep]) := by
  intro sound
  have created : tokensIn plainPython "invitation_token" kCreateTools false true
      [createStep, acceptStep] = .ok [py "a1"] := by rfl
  have used : tokensIn plainPython "participant_token" kTokenTools true false
      [createStep, acceptStep] = .ok [py "b2"] := by rfl
  have traced := sound (reports_pass_iff.mpr ⟨⟨_, created, by simp⟩, _, used, by simp⟩)
  have passed : Passed (fun _ => .nan) acceptStep (py "b2") :=
    ⟨_, _, py "ztab_accept_policy", _, ⟨⟨_, rfl, rfl⟩, rfl, rfl, rfl⟩, by decide, .inl rfl, rfl⟩
  obtain ⟨earlier, listed, mt, tc, name, sources, text, call, -, searched, joined, inside⟩ :=
    traced [createStep] acceptStep [] (py "b2") rfl passed
  obtain rfl := List.mem_singleton.mp listed
  have tool := call.tool
  cases tool
  cases searched
  cases joined
  revert inside
  decide

end Ztab.Audit
