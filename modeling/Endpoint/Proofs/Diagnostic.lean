import Endpoint.Command
import Endpoint.Json.Entries
import Endpoint.Proofs.Json.RoundTrip

/-!
What can be read back from the JSON object of a diagnostic. Its entries share one space of keys
with the particulars of its problem, and one problem has a particular of the name that the
message goes by.
-/

namespace Endpoint

namespace Problem

/-- The problem of a kind with the particulars that are found under their names. -/
def ofParticulars? (particular : String → Option String) : String → Option Problem
  | "duplicate_client_marker" => some .duplicateClientMarker
  | "generic_declaration" => some .genericDeclaration
  | "unsupported_trait_item" => return .unsupportedTraitItem (← particular "item")
  | "client_name_collision" =>
    return .clientNameCollision (← particular "name") (← particular "owner")
  | "invalid_client_arguments" => return .invalidClientArguments (← particular "message")
  | "missing_verb" => some .missingVerb
  | "duplicate_verb" => return .duplicateVerb (← particular "verbs")
  | "foreign_marker" => return .foreignMarker (← particular "path")
  | "invalid_route_argument" => return .invalidRouteArgument (← particular "marker")
  | "malformed_route" => return .malformedRoute (← particular "route") (← particular "reason")
  | "missing_receiver" => some .missingReceiver
  | "unsupported_parameter" => return .unsupportedParameter (← particular "parameter")
  | "unbound_placeholder" => return .unboundPlaceholder (← particular "placeholder")
  | "unused_route_parameter" => return .unusedRouteParameter (← particular "parameter")
  | "duplicate_body" => return .duplicateBody (← particular "first") (← particular "second")
  | "conflicting_roles" => return .conflictingRoles (← particular "parameter")
  | "duplicate_cancellation" => some .duplicateCancellation
  | "cancellation_not_trailing" => return .cancellationNotTrailing (← particular "parameter")
  | "duplicate_query_key" => return .duplicateQueryKey (← particular "key")
  | "ill_defined_return" => return .illDefinedReturn (← particular "reason")
  | "missing_error_channel" => some .missingErrorChannel
  | "non_unit_variant" => return .nonUnitVariant (← particular "variant")
  | "invalid_alias" => return .invalidAlias (← particular "variant")
  | "duplicate_alias" => return .duplicateAlias (← particular "alias")
  | _ => none

/-- The kind and the particulars of a problem say which problem it is. -/
theorem ofParticulars?_kind {particular : String → Option String} (problem : Problem)
    (found : ∀ field ∈ problem.fields, particular field.1 = some field.2) :
    ofParticulars? particular problem.kind = some problem := by
  cases problem <;> simp_all [fields, kind, ofParticulars?]

/-- No particular of the problem goes by the name of the message. -/
def IsClear (problem : Problem) : Prop := ∀ reason, problem ≠ .invalidClientArguments reason

theorem isClear_iff (problem : Problem) :
    problem.IsClear ↔ "message" ∉ problem.fields.map Prod.fst := by
  cases problem <;> simp [IsClear, fields]

/-- The message about arguments is longer than the reason in it. -/
theorem message_ne (reason : String) : (invalidClientArguments reason).message ≠ reason := by
  intro same
  have length := congrArg String.length same
  rw [show (invalidClientArguments reason).message =
    "invalid #[api_client] arguments: " ++ reason from rfl, String.length_append] at length
  have positive : 0 < "invalid #[api_client] arguments: ".length := by decide
  omega

/-- No particular goes by the name of another part of a diagnostic. -/
theorem fields_apart (problem : Problem) :
    ∀ field ∈ problem.fields, field.1 ∉ ["subject", "member", "kind"] := by
  cases problem <;> simp [fields]

end Problem

namespace Json

variable {entries : List (String × Json)}

/-- Of two rows of entries, the second is asked first. -/
theorem get?_append (front back : List (String × Json)) (key : String) :
    (Json.record (front ++ back)).get? key =
      ((Json.record back).get? key).or ((Json.record front).get? key) := by
  simp only [get?, List.reverse_append, List.find?_append, Option.map_or]

theorem get?_eq_none {key : String} (absent : key ∉ entries.map Prod.fst) :
    (Json.record entries).get? key = none := by
  simp only [get?, Option.map_eq_none_iff, List.find?_eq_none, List.mem_reverse, beq_iff_eq]
  exact fun entry member same => absent (List.mem_map.mpr ⟨entry, member, same⟩)

/-- With distinct keys, every entry of a record is found under its key. -/
theorem get?_of_mem (distinct : (entries.map Prod.fst).Nodup) {entry : String × Json}
    (member : entry ∈ entries) : (Json.record entries).get? entry.1 = some entry.2 := by
  obtain ⟨front, back, rfl⟩ := List.append_of_mem member
  rw [List.map_append, List.map_cons] at distinct
  have later := (List.nodup_cons.mp (List.nodup_append.mp distinct).2.1).1
  have alone : (Json.record [entry]).get? entry.1 = some entry.2 := by simp [get?]
  rw [List.append_cons, get?_append, get?_append, get?_eq_none later, alone]
  rfl

end Json

namespace Diagnostic

variable (diagnostic : Diagnostic)

/-- Every part of the diagnostic stands in the object under a key of its own. -/
structure WholeIn (object : Json) : Prop where
  distinct : ∃ entries, object = .record entries ∧ (entries.map Prod.fst).Nodup
  subject : object.textAt? "subject" = some diagnostic.subject.text
  member : object.get? "member" = some (.ofOption .text diagnostic.member)
  kind : object.textAt? "kind" = some diagnostic.problem.kind
  particulars : ∀ field ∈ diagnostic.problem.fields, object.textAt? field.1 = some field.2
  message : object.textAt? "message" = some diagnostic.problem.message

/-- The keys of the object are distinct, unless the problem has a particular that goes by the name
of the message. -/
theorem keys_nodup_iff :
    (diagnostic.entries.map Prod.fst).Nodup ↔ diagnostic.problem.IsClear := by
  rw [Problem.isClear_iff]
  cases diagnostic with
  | mk subject member problem => cases problem <;> simp [entries, Problem.fields]

/-- What the problem has no part in is found in every case. -/
theorem common_found :
    diagnostic.toJson.textAt? "subject" = some diagnostic.subject.text ∧
      diagnostic.toJson.get? "member" = some (.ofOption .text diagnostic.member) ∧
      diagnostic.toJson.textAt? "kind" = some diagnostic.problem.kind ∧
      diagnostic.toJson.textAt? "message" = some diagnostic.problem.message := by
  have beside (key : String) (own : key ∈ ["subject", "member", "kind"])
      (other : key ≠ "message") :
      diagnostic.toJson.get? key = (Json.record [("subject", .text diagnostic.subject.text),
        ("member", .ofOption .text diagnostic.member),
        ("kind", .text diagnostic.problem.kind)]).get? key := by
    have absent : key ∉ (diagnostic.problem.fields.map fun field =>
        (field.1, Json.text field.2)).map Prod.fst := by
      simp only [List.map_map, List.mem_map, Function.comp_apply, not_exists, not_and]
      exact fun field member same =>
        diagnostic.problem.fields_apart field member (same ▸ own)
    rw [toJson, entries, Json.get?_append, Json.get?_append, Json.get?_eq_none absent,
      Json.get?_eq_none (by simpa using other)]
    rfl
  refine ⟨?_, ?_, ?_, ?_⟩
  · rw [Json.textAt?, Json.entry, beside _ (by simp) (by decide)]
    rfl
  · rw [beside _ (by simp) (by decide)]
    rfl
  · rw [Json.textAt?, Json.entry, beside _ (by simp) (by decide)]
    rfl
  · rw [Json.textAt?, Json.entry, toJson, entries, Json.get?_append]
    rfl

/-- The particulars are found under their names exactly if none of them is named like the
message, which stands behind them. -/
theorem particulars_found_iff :
    (∀ field ∈ diagnostic.problem.fields, diagnostic.toJson.textAt? field.1 = some field.2) ↔
      diagnostic.problem.IsClear := by
  constructor
  · intro found reason same
    have listed : ("message", reason) ∈ diagnostic.problem.fields := by simp [same, Problem.fields]
    have shadowed : diagnostic.problem.message = reason :=
      Option.some.inj (diagnostic.common_found.2.2.2.symm.trans (found _ listed))
    rw [same] at shadowed
    exact Problem.message_ne reason shadowed
  · intro clear field member
    have listed : (field.1, Json.text field.2) ∈ diagnostic.entries := by
      simp only [entries, List.mem_append, List.mem_map]
      exact .inl (.inr ⟨field, member, rfl⟩)
    have found := Json.get?_of_mem (diagnostic.keys_nodup_iff.mpr clear) listed
    rw [Json.textAt?, Json.entry, toJson, found]
    rfl

theorem wholeIn_toJson_iff : diagnostic.WholeIn diagnostic.toJson ↔ diagnostic.problem.IsClear := by
  obtain ⟨subject, member, kind, message⟩ := diagnostic.common_found
  constructor
  · intro whole
    exact diagnostic.particulars_found_iff.mp whole.particulars
  · intro clear
    exact ⟨⟨_, rfl, diagnostic.keys_nodup_iff.mpr clear⟩, subject, member, kind,
      diagnostic.particulars_found_iff.mpr clear, message⟩

/-- The problem that an object tells of. -/
def problemIn? (object : Json) : Option Problem :=
  (object.textAt? "kind").bind (Problem.ofParticulars? object.textAt?)

theorem WholeIn.problemIn? {diagnostic : Diagnostic} {object : Json}
    (whole : diagnostic.WholeIn object) : problemIn? object = some diagnostic.problem := by
  rw [Diagnostic.problemIn?, whole.kind, Option.bind_some]
  exact Problem.ofParticulars?_kind diagnostic.problem whole.particulars

/-- The problem is read back from the object unless it has a particular that goes by the name of
the message. -/
theorem problemIn?_toJson_iff :
    problemIn? diagnostic.toJson = some diagnostic.problem ↔ diagnostic.problem.IsClear := by
  constructor
  · intro read reason same
    obtain ⟨-, -, kind, message⟩ := diagnostic.common_found
    rw [problemIn?, kind, Option.bind_some, same] at read
    have found : Problem.ofParticulars? diagnostic.toJson.textAt? "invalid_client_arguments" =
        (diagnostic.toJson.textAt? "message").map .invalidClientArguments := by
      cases message : diagnostic.toJson.textAt? "message" <;>
        simp [Problem.ofParticulars?, message]
    rw [Problem.kind, found, message, Option.map_some, Option.some.injEq,
      Problem.invalidClientArguments.injEq, same] at read
    exact Problem.message_ne reason read
  · exact fun clear => (diagnostic.wholeIn_toJson_iff.mpr clear).problemIn?

/-- The object of a diagnostic is plain, however deep a report holds it. -/
theorem plain_toJson (depth : Nat) : Json.Plain (depth + 1) diagnostic.toJson := by
  refine .record fun entry member => ?_
  simp only [entries, List.mem_append, List.mem_map, List.mem_cons, List.not_mem_nil,
    or_false] at member
  rcases member with (⟨rfl | rfl | rfl⟩ | ⟨field, -, rfl⟩) | rfl
  · exact .text _
  · cases diagnostic.member
    · exact .null
    · exact .text _
  · exact .text _
  · exact .text _
  · exact .text _

end Diagnostic

/-- A report is plain. -/
theorem Report.plain_toJson (report : Report) : Json.Plain Json.deepest report.toJson := by
  refine .record fun entry member => ?_
  simp only [List.mem_cons, List.not_mem_nil, or_false] at member
  rcases member with rfl | rfl | rfl
  · refine .list fun item member => ?_
    obtain ⟨unit, -, rfl⟩ := List.mem_map.mp member
    refine .record fun entry member => ?_
    simp only [List.mem_cons, List.not_mem_nil, or_false] at member
    rcases member with rfl | rfl | rfl <;> exact .text _
  · refine .list fun item member => ?_
    obtain ⟨diagnostic, -, rfl⟩ := List.mem_map.mp member
    exact diagnostic.plain_toJson _
  · exact .bool _

/-- What the report says in JSON is read as the objects of its diagnostics, and such an object
keeps its diagnostic whole exactly if its problem has no particular that goes by the name of the
message. What the problem has no part in is kept in every case. -/
theorem Diagnostic.whole_iff (options : Command.Options) (report : Report)
    (diagnostic : Diagnostic) :
    (Json.read? (Command.reportText { options with report := some .json } report)).bind
        (Json.get? · "diagnostics") = some (.list (report.diagnostics.map toJson)) ∧
      Json.read? diagnostic.toJson.write = some diagnostic.toJson ∧
      ((diagnostic.entries.map Prod.fst).Nodup ↔ diagnostic.problem.IsClear) ∧
      (diagnostic.WholeIn diagnostic.toJson ↔ diagnostic.problem.IsClear) ∧
      (problemIn? diagnostic.toJson = some diagnostic.problem ↔ diagnostic.problem.IsClear) ∧
      diagnostic.toJson.textAt? "subject" = some diagnostic.subject.text ∧
      diagnostic.toJson.get? "member" = some (.ofOption .text diagnostic.member) ∧
      diagnostic.toJson.textAt? "kind" = some diagnostic.problem.kind ∧
      diagnostic.toJson.textAt? "message" = some diagnostic.problem.message := by
  have printed : Json.read? (Command.reportText { options with report := some .json } report) =
      some report.toJson := by
    refine report.plain_toJson.read?_pretty 0 (fun c member => ?_)
    rw [List.mem_singleton.mp (member : c ∈ ['\n'])]
    rfl
  refine ⟨?_, (diagnostic.plain_toJson 126).read?_write, diagnostic.keys_nodup_iff,
    diagnostic.wholeIn_toJson_iff, diagnostic.problemIn?_toJson_iff, diagnostic.common_found⟩
  rw [printed]
  rfl

/-- Arguments that are refused: the object has two entries for the message, and the reason under the
first of them is not found. -/
theorem Diagnostic.reason_replaced :
    let diagnostic := ofDeclaration ⟨[], "Files"⟩ (.invalidClientArguments "expected `name`")
    ¬ (diagnostic.entries.map Prod.fst).Nodup ∧
      ("message", "expected `name`") ∈ diagnostic.problem.fields ∧
      diagnostic.toJson.textAt? "message" =
        some "invalid #[api_client] arguments: expected `name`" := by
  refine ⟨by decide, List.mem_singleton_self _, ?_⟩
  exact (ofDeclaration ⟨[], "Files"⟩
    (.invalidClientArguments "expected `name`")).common_found.2.2.2

end Endpoint
