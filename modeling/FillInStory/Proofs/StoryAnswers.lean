import FillInStory.Proofs.FieldNames
import FillInStory.Proofs.FilledForm
import FillInStory.Web.Server

/-! # What the server answers to those who ask for a story

A form and a call lead to the same field map by different ways, so that the two ways of asking can differ
only where a value is empty. The form is followed from the names of its inputs to the story: what a reader
types is put in for the field that the input was made for, and for no other.
-/

namespace FillInStory

structure Request.PostsForm (request : Request) (parameters : Dictionary Text Text) : Prop where
  path : request.target.path = "/".toList
  method : request.method = "POST".toList
  contentType : ∃ value, request.header? "content-type" = some value ∧
    (MediaType.parse? value).any (·.isApplication "x-www-form-urlencoded") = true
  body : Urlencoded.parameters request.body = parameters

structure Request.PostsCall (request : Request) (call : StoryCall) : Prop where
  path : request.target.path = "/v1/story/populate".toList
  method : request.method = "POST".toList
  contentType : ∃ value, request.header? "content-type" = some value ∧
    (MediaType.parse? value).any (·.isApplication "json") = true
  nonempty : request.body.isEmpty = false
  body : (Json.ofBytes? request.body).bind StoryCall.ofJson? = some call

namespace Template

theorem populate_ofNames (template : Template) {segments : List Segment}
    (spelled : Segment.Spells segments template.text) (values : Dictionary Text Text) :
    template.populate (FieldMap.ofNames values) =
      segments.flatMap (Segment.filledBy fun f => values.get? f.name) := by
  have found : (fun f : Field => Dictionary.get? (FieldMap.ofNames values) f.literal) =
      fun f => values.get? f.name := funext fun f => FieldMap.get?_ofNames values f.name
  rw [populate, FieldMap.substitute_of_spells _ spelled, found]

end Template

namespace Server

/-- A template with a field that is called like the hidden input. -/
def homeward : Template :=
  ⟨"Follow the {TEMPLATE} home, {who}.", ⟨[⟨"TEMPLATE"⟩, ⟨"who"⟩], by decide⟩, by decide⟩

def homewardServer : Server :=
  ⟨⟨[homeward], by decide, Instant.epoch⟩, "Stories", "localhost:8000/v1", ⟨"main", "0", "no", "now", "1"⟩⟩

variable (server : Server)

theorem answer_post {draw : Fin server.stories.size} {request : Request} {route : Route}
    (path : Route.ofPath? request.target.path = some route) (method : request.method = "POST".toList) :
    server.answer draw request = server.dispatch draw request route "POST".toList := by
  rw [answer, path, method]
  rfl

/-- A form that is posted is answered for its parameters. -/
theorem answer_of_postsForm {request : Request} {parameters : Dictionary Text Text}
    (posted : request.PostsForm parameters) (draw : Fin server.stories.size) :
    server.answer draw request = .ok (server.tellForm parameters) := by
  obtain ⟨value, header, isForm⟩ := posted.contentType
  have routed : Route.ofPath? request.target.path = some .form := by
    rw [posted.path]
    rfl
  rw [server.answer_post routed posted.method]
  change server.postForm request = _
  simp only [postForm, header, isForm, if_true, posted.body]

/-- A call that is posted is answered for itself, and one record about it goes to the log. -/
theorem answer_eq_of_postsCall {request : Request} {call : StoryCall}
    (posted : request.PostsCall call) (draw : Fin server.stories.size) :
    server.answer draw request =
      .ok ⟨server.tellCall call, [⟨.debug, .requests, requestSummary request call⟩]⟩ := by
  obtain ⟨value, header, isJson⟩ := posted.contentType
  have routed : Route.ofPath? request.target.path = some .populate := by
    rw [posted.path]
    decide
  rw [server.answer_post routed posted.method]
  change server.postCall request = _
  simp only [postCall, header, isJson, if_true, posted.nonempty, Bool.false_eq_true, if_false, posted.body]
  rfl

theorem answer_of_postsCall {request : Request} {call : StoryCall}
    (posted : request.PostsCall call) (draw : Fin server.stories.size) :
    (server.answer draw request).map Logged.value = .ok (server.tellCall call) := by
  rw [server.answer_eq_of_postsCall posted draw]
  rfl

section Telling

variable {parameters : Dictionary Text Text} {raw : Text} {number : Nat}

theorem tellForm_told (present : parameters.get? templateParameter = some raw)
    (valid : readTemplateNumber raw = .ok number) {template : Template}
    (found : server.stories.templates[number]? = some template) :
    server.tellForm parameters =
      pure (plainReply (template.populate (FieldMap.ofNames (answered (otherParameters parameters))))) := by
  rw [tellForm, FilledForm.ofParameters_eq, present]
  simp only [valid, server.stories.populate_of_getElem? found]

theorem tellForm_unknown (present : parameters.get? templateParameter = some raw)
    (valid : readTemplateNumber raw = .ok number) (large : server.stories.size ≤ number) :
    (server.tellForm parameters).value =
      errorReply 404 (StoryError.indexOutOfRange number server.stories.size).message := by
  rw [tellForm, FilledForm.ofParameters_eq, present]
  simp only [valid, server.stories.populate_of_le large]
  rfl

theorem tellCall_told (call : StoryCall) {template : Template}
    (found : server.stories.templates[call.number]? = some template) :
    server.tellCall call =
      successReply [("story", .string (template.populate (FieldMap.ofNames call.values)))] := by
  simp only [tellCall, StoryCall.tell, StoryCall.fieldMap, server.stories.populate_of_getElem? found]

theorem tellCall_unknown (call : StoryCall) (large : server.stories.size ≤ call.number) :
    server.tellCall call =
      jsonReply
        [("result_code", .string "1"),
          ("result_msg", .string
            ("ERROR: " ++ (StoryError.indexOutOfRange call.number server.stories.size).message)),
          ("story", .string "")] := by
  simp only [tellCall, StoryCall.tell, server.stories.populate_of_le large]

end Telling

/-! ## From the form to the story -/

/-- The parameters that a reader posts from the form of a template: its number, an answer for each of the
inputs, and whatever else is sent along. -/
def postedParameters (number : Nat) (template : Template) (answer : Text → Text)
    (extras : Dictionary Text Text) : List (Text × Text) :=
  (templateParameter, Text.decimal number) ::
    (template.formInputs.map (fun input => (input.name, answer input.name)) ++ extras.entries)

variable {template : Template} {answer : Text → Text} {extras : Dictionary Text Text}

theorem map_fst_postedParameters (number : Nat) :
    (postedParameters number template answer extras).map Prod.fst =
      templateParameter :: (template.fields.toList.map Field.name ++ extras.keys) := by
  simp [postedParameters, Template.formInputs, Dictionary.keys, Function.comp_def]

/-- The answer to each of the inputs is posted. -/
theorem mem_postedParameters (number : Nat) {f : Field} (member : f ∈ template.fields.toList) :
    (f.name, answer f.name) ∈ postedParameters number template answer extras := by
  have asked : (⟨f.name, f.name⟩ : FormInput) ∈ template.formInputs := List.mem_map.mpr ⟨f, member, rfl⟩
  exact List.mem_cons_of_mem _ (List.mem_append_left _ (List.mem_map.mpr ⟨_, asked, rfl⟩))

/-- No two parameters of a form share a name, and no field has the name of the hidden input. -/
theorem nodup_postedParameters (number : Nat)
    (apart : ∀ name ∈ extras.keys, name ≠ templateParameter ∧ name ∉ template.fields.names) :
    ((postedParameters number template answer extras).map Prod.fst).Nodup := by
  rw [map_fst_postedParameters, List.nodup_cons, List.mem_append, List.nodup_append]
  refine ⟨?_, template.fields.nodup_names, extras.nodup_keys, ?_⟩
  · rintro (isField | isExtra)
    · obtain ⟨f, member, same⟩ := List.mem_map.mp isField
      exact template.name_ne_templateParameter member same
    · exact (apart _ isExtra).1 rfl
  · rintro name isField _ isExtra rfl
    exact (apart name isExtra).2 isField

end Server

end FillInStory
