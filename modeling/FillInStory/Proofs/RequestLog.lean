import FillInStory.Proofs.ByteOrder
import FillInStory.Proofs.StoryAnswers

/-! # What the log says about calls

A call is logged with its template's number and the names that it gives values for, in byte order. The record is
made from these, the target and the headers alone: calls that differ in what they fill in, or in the order in which
they do, leave the same log.
-/

namespace FillInStory

namespace StoryCall

variable {call other : StoryCall} {names others : List Text}

/-- The names that a call gives values for, in byte order and each once. -/
structure Names (call : StoryCall) (names : List Text) : Prop where
  sorted : names.Pairwise fun a b => FileName.le (Text.utf8 a) (Text.utf8 b) ∧ a ≠ b
  mem_iff : ∀ name, name ∈ names ↔ name ∈ call.values.keys

/-- Calls with the same names, in whatever order they give them, list them alike. -/
theorem Names.unique (first : call.Names names) (second : other.Names others)
    (same : ∀ name, name ∈ call.values.keys ↔ name ∈ other.values.keys) : names = others := by
  refine Text.eq_of_sorted first.sorted second.sorted fun name => ?_
  rw [first.mem_iff, second.mem_iff]
  exact same name

/-- The keys of the values, sorted, are the names. -/
theorem names_mergeSort (call : StoryCall) :
    call.Names (call.values.keys.mergeSort fun m n => FileName.le (Text.utf8 m) (Text.utf8 n)) where
  sorted := by
    refine (Text.pairwise_mergeSort _).and ?_
    exact (List.mergeSort_perm _ _).nodup_iff.mpr call.values.nodup_keys
  mem_iff _ := List.mem_mergeSort

/-- What the log says about a call is made from its number and its names. -/
theorem summary_of_names (listed : call.Names names) :
    call.summary = "  Request body:\n    template_num: " ++ Text.decimal call.number ++ "\n    values: "
      ++ names.flatMap (fun name => "\n      ".toList ++ name) ++ "\n" := by
  obtain rfl := listed.unique call.names_mergeSort fun _ => Iff.rfl
  rfl

theorem summary_congr (number : call.number = other.number)
    (same : ∀ name, name ∈ call.values.keys ↔ name ∈ other.values.keys) : call.summary = other.summary := by
  have alike := call.names_mergeSort.unique other.names_mergeSort same
  rw [summary_of_names call.names_mergeSort, summary_of_names other.names_mergeSort, number, alike]

end StoryCall

namespace Server

variable {request other : Request} {call otherCall : StoryCall}

/-- The record about a call is made from the target, the headers and what is said about the call. -/
theorem requestSummary_congr (target : request.target = other.target) (headers : request.headers = other.headers)
    (calls : call.summary = otherCall.summary) : requestSummary request call = requestSummary other otherCall := by
  have grouped : request.groupedHeaders = other.groupedHeaders := by
    rw [Request.groupedHeaders, Request.groupedHeaders, headers]
  unfold requestSummary
  rw [target, grouped, calls]

/-- Calls with the same number and the same names that come to the same target with the same headers are not told
apart by the log, whatever values they give and in whatever order: what it says about the calls, the whole record
and the records of the answers agree. The names are listed in byte order, each once. -/
theorem requestSummary_hides_values (target : request.target = other.target)
    (headers : request.headers = other.headers) (number : call.number = otherCall.number)
    (names : ∀ name, name ∈ call.values.keys ↔ name ∈ otherCall.values.keys) :
    call.summary = otherCall.summary ∧ requestSummary request call = requestSummary other otherCall ∧
    (∀ (server : Server) (draw : Fin server.stories.size), request.PostsCall call → other.PostsCall otherCall →
      (server.answer draw request).map Logged.records = .ok [⟨.debug, .requests, requestSummary request call⟩] ∧
      (server.answer draw request).map Logged.records = (server.answer draw other).map Logged.records) ∧
    ∃ listed, (∀ others, call.Names others ↔ others = listed) ∧
      call.summary = "  Request body:\n    template_num: " ++ Text.decimal call.number ++ "\n    values: "
        ++ listed.flatMap (fun name => "\n      ".toList ++ name) ++ "\n" := by
  have calls := StoryCall.summary_congr number names
  have requests := requestSummary_congr target headers calls
  refine ⟨calls, requests, fun server draw posted otherPosted => ?_, ?_⟩
  · rw [server.answer_eq_of_postsCall posted, server.answer_eq_of_postsCall otherPosted, requests]
    exact ⟨rfl, rfl⟩
  · obtain ⟨listed, found⟩ : ∃ listed, call.Names listed := ⟨_, call.names_mergeSort⟩
    refine ⟨listed, fun others => ⟨fun names => ?_, fun same => same ▸ found⟩, StoryCall.summary_of_names found⟩
    exact names.unique found fun _ => Iff.rfl

/-- A call that gives the names of its fields for values. -/
def draft : Text := "\x7b\"template_num\": 7, \"values\": \x7b\"b\": \"a\", \"é\": \"é\", \"a\": \"b\"\x7d\x7d"

/-- A call for the same names in another order, with an empty value and one that is no text. -/
def redraft : Text := "\x7b\"values\": \x7b\"a\": \"\", \"b\": true, \"é\": \"x\"\x7d, \"template_num\": 7\x7d"

/-- A request that posts a text as JSON. -/
def jsonRequest (json : Text) : Request :=
  ⟨"POST", ⟨none, "/v1/story/populate", some "draft"⟩, [("Content-Type", "application/json")], Text.utf8 json⟩

theorem postsCall_jsonRequest {json : Text} (nonempty : (Text.utf8 json).isEmpty = false)
    (read : (Json.ofBytes? (Text.utf8 json)).bind StoryCall.ofJson? = some call) :
    (jsonRequest json).PostsCall call :=
  ⟨rfl, rfl, ⟨"application/json", rfl, by decide⟩, nonempty, read⟩

theorem requestSummary_hides_values_draft :
    ∃ call otherCall : StoryCall,
      (jsonRequest draft).PostsCall call ∧ (jsonRequest redraft).PostsCall otherCall ∧
      call.values.entries = ([("b", "a"), ("é", "é"), ("a", "b")] : List (Text × Text)) ∧
      otherCall.values.entries = ([("a", ""), ("b", "true"), ("é", "x")] : List (Text × Text)) ∧
      otherCall.summary = "  Request body:\n    template_num: 7\n    values: \n      a\n      b\n      é\n" ∧
      ∀ draw, ∃ record : Record,
        (homewardServer.answer draw (jsonRequest draft)).map Logged.records = .ok [record] ∧
        (homewardServer.answer draw (jsonRequest redraft)).map Logged.records = .ok [record] := by
  have first : ((Json.ofBytes? (Text.utf8 draft)).bind StoryCall.ofJson?).map
      (fun call => (call.number, call.values.entries)) =
        some (7, ([("b", "a"), ("é", "é"), ("a", "b")] : List (Text × Text))) := by decide +kernel
  have second : ((Json.ofBytes? (Text.utf8 redraft)).bind StoryCall.ofJson?).map
      (fun call => (call.number, call.values.entries)) =
        some (7, ([("a", ""), ("b", "true"), ("é", "x")] : List (Text × Text))) := by decide +kernel
  obtain ⟨call, read, given⟩ := Option.map_eq_some_iff.mp first
  obtain ⟨otherCall, readOther, givenOther⟩ := Option.map_eq_some_iff.mp second
  obtain ⟨number, entries⟩ := Prod.mk.inj given
  obtain ⟨otherNumber, otherEntries⟩ := Prod.mk.inj givenOther
  have posted := postsCall_jsonRequest (by decide) read
  have otherPosted := postsCall_jsonRequest (by decide) readOther
  have order : call.values.keys.Perm otherCall.values.keys := by
    rw [Dictionary.keys, Dictionary.keys, entries, otherEntries]
    decide
  have names : otherCall.Names ["a", "b", "é"] := by
    refine ⟨by decide, fun name => ?_⟩
    rw [Dictionary.keys, otherEntries]
    rfl
  have target (s t : Text) : (jsonRequest s).target = (jsonRequest t).target := rfl
  have headers (s t : Text) : (jsonRequest s).headers = (jsonRequest t).headers := rfl
  have alike := requestSummary_hides_values (target draft redraft) (headers draft redraft)
    (number.trans otherNumber.symm) fun name => order.mem_iff
  refine ⟨call, otherCall, posted, otherPosted, entries, otherEntries, ?_, fun draw => ?_⟩
  · rw [StoryCall.summary_of_names names, otherNumber]
    decide
  · obtain ⟨one, same⟩ := alike.2.2.1 homewardServer draw posted otherPosted
    exact ⟨_, one, same.symm.trans one⟩

end Server

end FillInStory
