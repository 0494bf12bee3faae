import LiveRoom.Command
import LiveRoom.Proofs.Dialogue
import LiveRoom.Proofs.Http.Service
import LiveRoom.Proofs.Text.Blank

/-!
# Posting to the service

A client knows the service by its address, whatever number of slashes that ends in
(`Client.ofBase_append_slashes`).  A post to the path of a command then reaches the service
as one request, whose target is the path, and which has a content type exactly if it has a
body (`Client.post_run`).  So what the service has received after some posts is one
request for each of them, in order (`Client.received_afterPosts`).

All this is about answers that are no redirects.
-/

namespace LiveRoom

/-! ## The paths of commands -/

namespace Command

def segments (command : Command) : List (List Char) :=
  (Text.pieces (· == '/') command.path.toList).tail

theorem pathText_segments (command : Command) :
    Url.pathText (.segments command.segments) = command.path.toList := by
  cases command <;> decide

theorem segments_ne_nil (command : Command) : command.segments ≠ [] := by
  cases command <;> decide

theorem isPlain_of_mem_segments (command : Command) :
    ∀ segment ∈ command.segments, Url.IsPlain segment := by
  cases command <;> decide

theorem length_path_le (command : Command) : command.path.toList.length ≤ 36 := by
  cases command <;> decide

end Command

/-! ## One post -/

namespace Client

/-- **Slashes at the end of an address do not matter.** -/
theorem ofBase_append_slashes {base : List Char} (h : ∀ c ∈ base.getLast?, c ≠ '/') (count : Nat) :
    ofBase (String.ofList (base ++ List.replicate count '/')) = ⟨String.ofList base⟩ := by
  have hkept : ∀ c ∈ base.getLast?, (c == '/') = false := fun c hc => beq_false_of_ne (h c hc)
  have hdropped : ∀ c ∈ List.replicate count '/', c == '/' := fun c hc => by
    rw [List.eq_of_mem_replicate hc]
    rfl
  rw [ofBase, String.toList_ofList, Text.dropWhileEnd_append hkept hdropped]

/-- The request that a post to a target of the service arrives as. -/
def request (target : String) (body : Option String) : Http.Request :=
  ⟨.post, target, body.map fun _ => jsonType, body⟩

theorem isPlain_of_mem_append {base : List (List Char)}
    (hbase : ∀ segment ∈ base, Url.IsPlain segment) (command : Command) :
    ∀ segment ∈ base ++ command.segments, Url.IsPlain segment := by
  intro segment hsegment
  rcases List.mem_append.mp hsegment with hsegment | hsegment
  · exact hbase segment hsegment
  · exact command.isPlain_of_mem_segments segment hsegment

theorem pathText_append (base : List (List Char)) (command : Command) :
    Url.pathText (.segments (base ++ command.segments)) =
      Url.pathText (.segments base) ++ command.path.toList := by
  rw [← command.pathText_segments]
  exact List.flatMap_append

theorem urlFor_path {client : Client} {address : Http.Address} {base : List (List Char)}
    (hclient : client.base = String.ofList (address.text ++ Url.pathText (.segments base)))
    (command : Command) :
    client.urlFor command.path =
      String.ofList (address.text ++ Url.pathText (.segments (base ++ command.segments))) := by
  rw [urlFor, hclient, pathText_append, ← List.append_assoc]
  generalize address.text ++ Url.pathText (.segments base) = front
  rw [String.ofList_append, String.ofList_toList]

/-- Whatever the base is, the path of a command has a first segment. -/
theorem exists_append_segments (base : List (List Char)) (command : Command) :
    ∃ part others, base ++ command.segments = part :: others :=
  List.exists_cons_of_ne_nil (by simp [command.segments_ne_nil])

/-- **The address of a command's path**, behind plain segments, is read as the URL of both. -/
theorem parse_urlFor_path {client : Client} {address : Http.Address} {base : List (List Char)}
    (hbase : ∀ segment ∈ base, Url.IsPlain segment)
    (hclient : client.base = String.ofList (address.text ++ Url.pathText (.segments base)))
    (command : Command) :
    Url.parse (client.urlFor command.path) = .ok (address.url (base ++ command.segments)) := by
  have hplain := isPlain_of_mem_append hbase command
  rw [urlFor_path hclient command]
  obtain ⟨part, others, hsegments⟩ := exists_append_segments base command
  rw [hsegments] at hplain ⊢
  exact address.parse_text hplain

section Post
variable {client : Client} {library : Http.Library} {address : Http.Address}
  {service : Http.Service} {network : Http.Network Http.Service.State}
  {state : Http.Service.State} (hnetwork : network.Reaches service)
include hnetwork

/-- **The delivery of a body** to the path of a command, behind a path of the client's own:
one request, and what is concluded from its answer. -/
theorem delivery_run {base : List (List Char)} (hbase : ∀ segment ∈ base, Url.IsPlain segment)
    (hlength : (Url.pathText (.segments base)).length + 64 ≤ Http.longestAddress)
    (hclient : client.base = String.ofList (address.text ++ Url.pathText (.segments base)))
    (hservice : service.endpoint = address.endpoint)
    (hanswer : ¬ (service.answer state).Redirects library) (command : Command)
    (body : Option String) :
    let url := address.url (base ++ command.segments)
    let target := String.ofList (Url.pathText (.segments base)) ++ command.path
    let concluded := conclude library (client.urlFor command.path)
      (((service.answer state).outcome library url).mapError (.underway url))
    (client.delivery library command.path body).run network state =
      ⟨[(service.endpoint, request target body)],
        ⟨sendingEntry (client.urlFor command.path) body :: concluded.1, concluded.2⟩,
        ⟨state.answers.tail, state.received ++ [request target body]⟩⟩ := by
  intro url target concluded
  have hplain := isPlain_of_mem_append hbase command
  have hpath := pathText_append base command
  have hurl := urlFor_path hclient command
  have hrequest : (message body).request url = request target body := by
    rw [Http.Message.request, address.target_url, hpath, String.ofList_append,
      String.ofList_toList]
    rfl
  obtain ⟨part, others, hsegments⟩ := exists_append_segments base command
  have hsend := address.send_run hnetwork hservice (hsegments ▸ hplain) (by
    rw [← hsegments, hpath, List.length_append]
    have := command.length_path_le
    omega) hanswer (message body)
  rw [← hsegments, ← hurl] at hsend
  rw [delivery, Http.Traffic.run_map, hsend, ← hrequest]

/-- **A post to the path of a command** is one request to the service, whatever the answer
is. -/
theorem post_run (hclient : client.base = String.ofList address.text)
    (hservice : service.endpoint = address.endpoint)
    (hanswer : ¬ (service.answer state).Redirects library) (command : Command)
    (body : Option String) :
    ((client.link library network).post command.path body state).2 =
      ⟨state.answers.tail, state.received ++ [request command.path body]⟩ := by
  have hbase : client.base = String.ofList (address.text ++ Url.pathText (.segments [])) := by
    rw [hclient]
    exact congrArg String.ofList (List.append_nil _).symm
  have hrun := congrArg Http.Passage.network
    (delivery_run hnetwork (by simp) (by decide) hbase hservice hanswer command body)
  have htarget : String.ofList (Url.pathText (.segments [])) ++ command.path = command.path :=
    String.empty_append
  simp only [htarget] at hrun
  exact hrun

/-- **The service receives one request for each post**, in order, and whatever it answers. -/
theorem received_afterPosts (state : Http.Service.State)
    (hclient : client.base = String.ofList address.text)
    (hservice : service.endpoint = address.endpoint)
    (hanswers : ∀ answer ∈ service.otherwise :: state.answers, ¬ answer.Redirects library)
    {posts : List (String × Option String)}
    (hposts : ∀ post ∈ posts, ∃ command : Command, post.1 = command.path) :
    ((client.link library network).afterPosts state posts).received =
      state.received ++ posts.map fun post => request post.1 post.2 := by
  induction posts generalizing state with
  | nil => exact (List.append_nil _).symm
  | cons post posts ih =>
    obtain ⟨command, hcommand⟩ := hposts post List.mem_cons_self
    have hpost := post_run hnetwork hclient hservice
      (hanswers _ (service.answer_mem state)) command post.2
    rw [← hcommand] at hpost
    -- One answer is used up, and the others were there before.
    have hleft : ∀ answer ∈ service.otherwise ::
        ((client.link library network).post post.1 post.2 state).2.answers,
          ¬ answer.Redirects library := by
      rw [hpost]
      intro answer hanswer
      refine hanswers answer ?_
      rcases List.mem_cons.mp hanswer with rfl | hanswer
      · exact List.mem_cons_self
      · exact List.mem_cons_of_mem _ (List.mem_of_mem_tail hanswer)
    have hothers := ih ((client.link library network).post post.1 post.2 state).2 hleft
      fun post hpost => hposts post (List.mem_cons_of_mem _ hpost)
    rw [Link.afterPosts, List.foldl_cons]
    refine hothers.trans ?_
    rw [hpost, List.map_cons, List.append_assoc]
    rfl

end Post

end Client

end LiveRoom
