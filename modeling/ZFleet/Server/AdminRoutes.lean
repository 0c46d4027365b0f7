import Mathlib.Data.Bool.AllAny
import ZFleet.Foundations.ByteReader
import ZFleet.Server.AdminRequests

/-!
The routes of the management API: which handler answers a request and the parameter that it
takes out of the path. Some routes are found by the front and the back of the path, and take
what is between by a length in 64-bit arithmetic; the routes under an agent that only read
take the tail of the path and decode it once more.
-/
namespace AdminRoutes
open AdminRequests PercentCodes

/-- What answers a request, with the parameters it looks up. -/
inductive Handled where
  | agents
  | agent (agentId : List Char)
  | assets (agentId : List Char)
  | latestAsset (agentId : List Char)
  | install
  | highRiskDisabled
  | rollback (agentId : List Char)
  | upgrade (agentId : List Char)
  | packages
  | packageStreamRequired
  | validate (packageId : List Char)
  | publish (packageId : List Char)
  | retire (packageId : List Char)
  | download (component packageId : List Char)
  | notFound
  deriving DecidableEq, Repr

/-- A route found by the front and the back of the path. -/
structure ParameterRoute where
  method : String
  front : List Char
  back : List Char
  handled : List Char → Handled

namespace ParameterRoute

def reached (route : ParameterRoute) (request : HttpRequest) : Bool :=
  request.method = route.method && route.front.isPrefixOf request.path &&
    route.back.isSuffixOf request.path

/-- The size of the parameter, a 64-bit number. -/
def count (route : ParameterRoute) (path : List Char) : Nat :=
  ByteReader.sub64 (ByteReader.sub64 path.length route.front.length) route.back.length

/-- `substr` takes less when the text ends before. -/
def parameter (route : ParameterRoute) (path : List Char) : List Char :=
  (path.drop route.front.length).take (route.count path)

end ParameterRoute

def agentsFront : List Char := "/api/v1/agents/".toList

def packagesFront : List Char := "/api/v1/admin/packages/".toList

def rollbackRoute : ParameterRoute := ⟨"POST", agentsFront, "/rollback".toList, .rollback⟩

def upgradeRoute : ParameterRoute := ⟨"POST", agentsFront, "/upgrade".toList, .upgrade⟩

def validateRoute : ParameterRoute := ⟨"POST", packagesFront, "/validate".toList, .validate⟩

def publishRoute : ParameterRoute := ⟨"POST", packagesFront, "/publish".toList, .publish⟩

def retireRoute : ParameterRoute := ⟨"POST", packagesFront, "/retire".toList, .retire⟩

/-- The component and the package in the middle of a download. -/
def downloaded (rest : List Char) : Handled :=
  match rest.dropWhile (· ≠ '/') with
  | [] => .notFound
  | _ :: packageId => .download (rest.takeWhile (· ≠ '/')) packageId

def downloadRoute : ParameterRoute :=
  ⟨"GET", "/api/v1/packages/".toList, "/download".toList, downloaded⟩

/-- The rest of a path, decoded. -/
def pathTail (path front : List Char) : List Char :=
  if front.isPrefixOf path then urlDecode (path.drop front.length) else []

def handleAgentApi (request : HttpRequest) : Option Handled :=
  if request.method = "GET" ∧ request.path = "/api/v1/agents".toList then some .agents
  else if request.method = "GET" ∧ agentsFront.isPrefixOf request.path then
    let rest := pathTail request.path agentsFront
    match rest.dropWhile (· ≠ '/') with
    | [] => some (.agent rest)
    | _ :: suffix =>
      if suffix = "assets/latest".toList then some (.latestAsset (rest.takeWhile (· ≠ '/')))
      else if suffix = "assets".toList then some (.assets (rest.takeWhile (· ≠ '/')))
      else none
  else none

def handleInstallApi (request : HttpRequest) : Option Handled :=
  if request.method = "GET" ∧ (request.path = "/api/v1/install/script".toList ∨
      request.path = "/api/v1/install/commands".toList ∨
      request.path = "/api/v1/install/options".toList) then some .install
  else if request.method = "POST" ∧ request.path = "/api/v1/install/tokens".toList then some .install
  else none

def handleAgentMutationApi (allowHighRiskWrite : Bool) (request : HttpRequest) : Option Handled :=
  if rollbackRoute.reached request then
    if !allowHighRiskWrite then some .highRiskDisabled
    else some (rollbackRoute.handled (rollbackRoute.parameter request.path))
  else if upgradeRoute.reached request then
    if !allowHighRiskWrite then some .highRiskDisabled
    else some (upgradeRoute.handled (upgradeRoute.parameter request.path))
  else none

def handleAdminPackageApi (request : HttpRequest) : Option Handled :=
  if request.method = "GET" ∧ request.path = "/api/v1/admin/packages".toList then some .packages
  else if request.method = "POST" ∧ request.path = "/api/v1/admin/packages".toList then
    some .packageStreamRequired
  else if validateRoute.reached request then
    some (validateRoute.handled (validateRoute.parameter request.path))
  else if publishRoute.reached request then
    some (publishRoute.handled (publishRoute.parameter request.path))
  else if retireRoute.reached request then
    some (retireRoute.handled (retireRoute.parameter request.path))
  else none

/-- The size of the path is checked once more here. -/
def handlePackageDownloadApi (request : HttpRequest) : Option Handled :=
  if downloadRoute.reached request ∧ request.path.length > downloadRoute.back.length then
    some (downloadRoute.handled (downloadRoute.parameter request.path))
  else none

/-- The first handler with an answer. -/
def handleApi (allowHighRiskWrite : Bool) (request : HttpRequest) : Handled :=
  ((handleAgentApi request).or <| (handleInstallApi request).or <|
    (handleAgentMutationApi allowHighRiskWrite request).or <|
      (handleAdminPackageApi request).or <| handlePackageDownloadApi request).getD .notFound

/-! Parameters between the front and the back -/

def managementRoutes : List ParameterRoute :=
  [rollbackRoute, upgradeRoute, validateRoute, publishRoute, retireRoute, downloadRoute]

/-- The front ends with a slash and the back starts with its only one. -/
structure SharesSlash (route : ParameterRoute) : Prop where
  parts : ∃ base action, route.front = base ++ ['/'] ∧ route.back = '/' :: action ∧ '/' ∉ action

theorem management_slash {route : ParameterRoute} (management : route ∈ managementRoutes) :
    SharesSlash route := by
  simp only [managementRoutes, List.mem_cons, List.not_mem_nil, or_false] at management
  rcases management with rfl | rfl | rfl | rfl | rfl | rfl
  · exact ⟨"/api/v1/agents".toList, "rollback".toList, rfl, rfl, by decide⟩
  · exact ⟨"/api/v1/agents".toList, "upgrade".toList, rfl, rfl, by decide⟩
  · exact ⟨"/api/v1/admin/packages".toList, "validate".toList, rfl, rfl, by decide⟩
  · exact ⟨"/api/v1/admin/packages".toList, "publish".toList, rfl, rfl, by decide⟩
  · exact ⟨"/api/v1/admin/packages".toList, "retire".toList, rfl, rfl, by decide⟩
  · exact ⟨"/api/v1/packages".toList, "download".toList, rfl, rfl, by decide⟩

/-- The front with the back right behind it, the slash between them shared. -/
def ParameterRoute.overlap (route : ParameterRoute) : List Char := route.front ++ route.back.tail

/-- The size does not wrap and the parameter is what lies between the front and the back. -/
structure Extracts (route : ParameterRoute) (path : List Char) : Prop where
  no_wrap : route.front.length + route.back.length ≤ path.length
  between : path = route.front ++ route.parameter path ++ route.back

theorem reached_iff {route : ParameterRoute} {request : HttpRequest} :
    route.reached request = true ↔
      request.method = route.method ∧ route.front <+: request.path ∧ route.back <:+ request.path := by
  simp [ParameterRoute.reached, List.isPrefixOf_iff_prefix, List.isSuffixOf_iff_suffix, and_assoc]

/-- A path with room for both parts is cut right. -/
theorem parameter_between {route : ParameterRoute} {middle : List Char}
    (fits : (route.front ++ middle ++ route.back).length < 2 ^ 64) :
    route.parameter (route.front ++ middle ++ route.back) = middle := by
  have size : (route.front ++ middle ++ route.back).length =
      route.front.length + middle.length + route.back.length := by
    simp only [List.length_append]
  have count : route.count (route.front ++ middle ++ route.back) = middle.length := by
    unfold ParameterRoute.count
    rw [ByteReader.sub64_of_le (by omega) fits, ByteReader.sub64_of_le (by omega) (by omega)]
    omega
  rw [ParameterRoute.parameter, count, List.append_assoc, List.drop_left, List.take_left]

theorem extracts_of_room {route : ParameterRoute} {request : HttpRequest}
    (reached : route.reached request = true) (fits : request.path.length < 2 ^ 64)
    (room : route.front.length + route.back.length ≤ request.path.length) :
    Extracts route request.path := by
  obtain ⟨_, ⟨behind, front⟩, ⟨before, back⟩⟩ := reached_iff.mp reached
  have same : route.front ++ behind = before ++ route.back := front.trans back.symm
  obtain ⟨middle, before_eq, behind_eq⟩ | ⟨middle, front_eq, back_eq⟩ :=
    List.append_eq_append_iff.mp same
  · have shape : request.path = route.front ++ middle ++ route.back := by
      rw [← back, before_eq]
    refine ⟨room, ?_⟩
    rw [shape] at fits ⊢
    rw [parameter_between fits]
  · have sizes := congrArg List.length front
    rw [List.length_append] at sizes
    have sizes' := congrArg List.length back_eq
    rw [List.length_append] at sizes'
    have empty : middle = [] := by
      apply List.eq_nil_of_length_eq_zero
      omega
    subst empty
    have shape : request.path = route.front ++ [] ++ route.back := by
      rw [← back, front_eq]
      simp
    refine ⟨room, ?_⟩
    rw [shape] at fits ⊢
    rw [parameter_between fits]

/-- Only the shared slash lets both match where there is no room for both. -/
theorem overlap_of_no_room {route : ParameterRoute} (slash : SharesSlash route)
    {path : List Char} (front : route.front <+: path) (back : route.back <:+ path)
    (short : path.length < route.front.length + route.back.length) : path = route.overlap := by
  obtain ⟨base, action, front_eq, back_eq, plain⟩ := slash.parts
  obtain ⟨behind, rfl⟩ := front
  obtain ⟨before, same⟩ := back
  rw [List.length_append] at short
  obtain ⟨middle, front_split, back_split⟩ | ⟨middle, before_split, behind_split⟩ :=
    List.append_eq_append_iff.mp same
  · -- the front goes on into the back by `middle`, which ends with the front's slash
    have nonempty : middle ≠ [] := by
      rintro rfl
      have sizes := congrArg List.length back_split
      simp only [List.nil_append] at sizes
      omega
    obtain ⟨first, rest, rfl⟩ := List.exists_cons_of_ne_nil nonempty
    rw [back_eq, List.cons_append] at back_split
    obtain ⟨is_slash, action_eq⟩ := List.cons.inj back_split
    have alone : rest = [] := by
      by_contra more
      have ends : route.front.getLast? = some '/' := by rw [front_eq]; simp
      have ends' : rest.getLast? = some '/' := by
        rw [front_split, List.append_cons, List.getLast?_append] at ends
        cases last : rest.getLast? with
        | none => exact absurd (List.getLast?_eq_none_iff.mp last) more
        | some c => simpa [last] using ends
      exact plain (by rw [action_eq]; exact List.mem_append_left _ (List.mem_of_getLast? ends'))
    subst alone
    rw [ParameterRoute.overlap, back_eq, List.tail_cons, action_eq, List.nil_append]
  · have sizes := congrArg List.length behind_split
    rw [List.length_append] at sizes
    omega

/-! Which handler answers -/

theorem front_excluded {front front' path : List Char} (starts : front <+: path)
    (apart : ¬ front <+: front' ∧ ¬ front' <+: front) : ¬ front' <+: path := by
  intro starts'
  rcases List.prefix_or_prefix_of_prefix starts starts' with one | other
  · exact apart.1 one
  · exact apart.2 other

theorem back_excluded {back back' path : List Char} (ends : back <:+ path)
    (apart : ¬ back <:+ back' ∧ ¬ back' <:+ back) : ¬ back' <:+ path := by
  intro ends'
  rcases List.suffix_or_suffix_of_suffix ends ends' with one | other
  · exact apart.1 one
  · exact apart.2 other

theorem path_excluded {front path other : List Char} (starts : front <+: path)
    (apart : ¬ front <+: other) : path ≠ other := by
  rintro rfl
  exact apart starts

theorem not_reached {route : ParameterRoute} {request : HttpRequest}
    (apart : request.method ≠ route.method ∨ ¬ route.front <+: request.path ∨
      ¬ route.back <:+ request.path) : route.reached request = false := by
  rw [← Bool.not_eq_true, reached_iff]
  rintro ⟨method, front, back⟩
  rcases apart with other | other | other
  · exact other method
  · exact other front
  · exact other back

theorem handleAgentApi_post {request : HttpRequest} (post : request.method = "POST") :
    handleAgentApi request = none := by
  simp [handleAgentApi, post]

theorem handleInstallApi_other {request : HttpRequest} {front : List Char}
    (starts : front <+: request.path)
    (apart : ∀ path ∈ ["/api/v1/install/script".toList, "/api/v1/install/commands".toList,
      "/api/v1/install/options".toList, "/api/v1/install/tokens".toList], ¬ front <+: path) :
    handleInstallApi request = none := by
  have other : ∀ path ∈ ["/api/v1/install/script".toList, "/api/v1/install/commands".toList,
      "/api/v1/install/options".toList, "/api/v1/install/tokens".toList], request.path ≠ path :=
    fun path member => path_excluded starts (apart path member)
  unfold handleInstallApi
  rw [if_neg, if_neg]
  · rintro ⟨_, same⟩
    exact other _ (by simp) same
  · rintro ⟨_, same | same | same⟩
    · exact other _ (by simp) same
    · exact other _ (by simp) same
    · exact other _ (by simp) same

theorem handleAgentMutationApi_other {request : HttpRequest} {allowHighRiskWrite : Bool}
    (other : ¬ agentsFront <+: request.path) :
    handleAgentMutationApi allowHighRiskWrite request = none := by
  have rollback : rollbackRoute.reached request = false := not_reached (Or.inr (Or.inl other))
  have upgrade : upgradeRoute.reached request = false := not_reached (Or.inr (Or.inl other))
  simp [handleAgentMutationApi, rollback, upgrade]

theorem handleAdminPackageApi_other {request : HttpRequest}
    (list : request.path ≠ "/api/v1/admin/packages".toList)
    (other : ¬ packagesFront <+: request.path) : handleAdminPackageApi request = none := by
  have validate : validateRoute.reached request = false := not_reached (Or.inr (Or.inl other))
  have publish : publishRoute.reached request = false := not_reached (Or.inr (Or.inl other))
  have retire : retireRoute.reached request = false := not_reached (Or.inr (Or.inl other))
  unfold handleAdminPackageApi
  rw [if_neg fun here => list here.2, if_neg fun here => list here.2, validate, publish, retire]
  rfl

theorem handleAdminPackageApi_reached {route : ParameterRoute}
    (one : route ∈ [validateRoute, publishRoute, retireRoute]) {request : HttpRequest}
    (reached : route.reached request = true) :
    handleAdminPackageApi request = some (route.handled (route.parameter request.path)) := by
  obtain ⟨method, front, back⟩ := reached_iff.mp reached
  simp only [List.mem_cons, List.not_mem_nil, or_false] at one
  have longer : request.path ≠ "/api/v1/admin/packages".toList := by
    rcases one with rfl | rfl | rfl
    · exact path_excluded front (by decide)
    · exact path_excluded front (by decide)
    · exact path_excluded front (by decide)
  unfold handleAdminPackageApi
  rw [if_neg fun exact_path => longer exact_path.2, if_neg fun exact_path => longer exact_path.2]
  rcases one with rfl | rfl | rfl
  · rw [reached]
    rfl
  · have validate : validateRoute.reached request = false :=
      not_reached (Or.inr (Or.inr (back_excluded back (by decide))))
    rw [validate, reached]
    rfl
  · have validate : validateRoute.reached request = false :=
      not_reached (Or.inr (Or.inr (back_excluded back (by decide))))
    have publish : publishRoute.reached request = false :=
      not_reached (Or.inr (Or.inr (back_excluded back (by decide))))
    rw [validate, publish, reached]
    rfl

theorem handled_package {route : ParameterRoute}
    (one : route ∈ [validateRoute, publishRoute, retireRoute]) {request : HttpRequest}
    (reached : route.reached request = true) (allowHighRiskWrite : Bool) :
    handleApi allowHighRiskWrite request = route.handled (route.parameter request.path) := by
  have answered := handleAdminPackageApi_reached one reached
  obtain ⟨method, front, _⟩ := reached_iff.mp reached
  have here : request.method = "POST" ∧ packagesFront <+: request.path := by
    simp only [List.mem_cons, List.not_mem_nil, or_false] at one
    rcases one with rfl | rfl | rfl
    · exact ⟨method, front⟩
    · exact ⟨method, front⟩
    · exact ⟨method, front⟩
  have read := handleAgentApi_post here.1
  have install : handleInstallApi request = none := handleInstallApi_other here.2 (by decide)
  have mutation : handleAgentMutationApi allowHighRiskWrite request = none :=
    handleAgentMutationApi_other (front_excluded here.2 (by decide))
  simp only [handleApi, read, install, mutation, answered, Option.none_or, Option.some_or,
    Option.getD_some]

/-- The download handler answers when the others do not. -/
theorem handleApi_last {request : HttpRequest} {allowHighRiskWrite : Bool} {answer : Handled}
    (read : handleAgentApi request = none) (install : handleInstallApi request = none)
    (mutation : handleAgentMutationApi allowHighRiskWrite request = none)
    (admin : handleAdminPackageApi request = none)
    (answered : handlePackageDownloadApi request = some answer) :
    handleApi allowHighRiskWrite request = answer := by
  simp only [handleApi, read, install, mutation, admin, answered, Option.none_or, Option.getD_some]

theorem handled_download {request : HttpRequest} (reached : downloadRoute.reached request = true)
    (allowHighRiskWrite : Bool) :
    handleApi allowHighRiskWrite request =
      downloadRoute.handled (downloadRoute.parameter request.path) := by
  obtain ⟨method, front, back⟩ := reached_iff.mp reached
  have read : handleAgentApi request = none := by
    have list : request.path ≠ "/api/v1/agents".toList := path_excluded front (by decide)
    have under : ¬ agentsFront <+: request.path := front_excluded front (by decide)
    unfold handleAgentApi
    rw [if_neg fun here => list here.2,
      if_neg fun here => under (List.isPrefixOf_iff_prefix.mp here.2)]
  have install : handleInstallApi request = none := handleInstallApi_other front (by decide)
  have mutation : handleAgentMutationApi allowHighRiskWrite request = none :=
    handleAgentMutationApi_other (front_excluded front (by decide))
  have admin : handleAdminPackageApi request = none :=
    handleAdminPackageApi_other (path_excluded front (by decide))
      (front_excluded front (by decide))
  have long : request.path.length > downloadRoute.back.length := by
    have longer : downloadRoute.back.length < downloadRoute.front.length := by decide
    exact Nat.lt_of_lt_of_le longer front.length_le
  have answered : handlePackageDownloadApi request =
      some (downloadRoute.handled (downloadRoute.parameter request.path)) := if_pos ⟨reached, long⟩
  exact handleApi_last read install mutation admin answered

/-- With high-risk writes allowed a request on a management route is handled there. -/
theorem handled_management {route : ParameterRoute} (management : route ∈ managementRoutes)
    {request : HttpRequest} (reached : route.reached request = true) :
    handleApi true request = route.handled (route.parameter request.path) := by
  obtain ⟨method, front, back⟩ := reached_iff.mp reached
  simp only [managementRoutes, List.mem_cons, List.not_mem_nil, or_false] at management
  rcases management with rfl | rfl | rfl | rfl | rfl | rfl
  · have read := @handleAgentApi_post request method
    have install : handleInstallApi request = none := handleInstallApi_other front (by decide)
    simp only [handleApi, read, install, handleAgentMutationApi, reached, if_true]
    rfl
  · have read := @handleAgentApi_post request method
    have install : handleInstallApi request = none := handleInstallApi_other front (by decide)
    have rollback : rollbackRoute.reached request = false :=
      not_reached (Or.inr (Or.inr (back_excluded back (by decide))))
    simp only [handleApi, read, install, handleAgentMutationApi, rollback, reached, if_true]
    rfl
  · exact handled_package (by simp) reached true
  · exact handled_package (by simp) reached true
  · exact handled_package (by simp) reached true
  · exact handled_download reached true

/-- A management route takes the bytes between its front and its back, and does so without
    wrapping around, unless the path is the front and the back with one slash between. -/
theorem extraction_iff {route : ParameterRoute} (management : route ∈ managementRoutes)
    {request : HttpRequest} (fits : request.path.length < 2 ^ 64)
    (reached : route.reached request = true) :
    handleApi true request = route.handled (route.parameter request.path) ∧
      (Extracts route request.path ↔ request.path ≠ route.overlap) := by
  have slash := management_slash management
  refine ⟨handled_management management reached, ?_⟩
  constructor
  · intro extracts same
    have room := extracts.no_wrap
    obtain ⟨base, action, _, back_eq, _⟩ := slash.parts
    rw [same, ParameterRoute.overlap, List.length_append, back_eq, List.tail_cons,
      List.length_cons] at room
    omega
  · intro apart
    by_cases room : route.front.length + route.back.length ≤ request.path.length
    · exact extracts_of_room reached fits room
    · obtain ⟨_, front, back⟩ := reached_iff.mp reached
      exact absurd (overlap_of_no_room slash front back (by omega)) apart

def rollbackOf (path : String) : HttpRequest := ⟨"POST", path.toList, path.toList, []⟩

theorem extraction_iff_rollback :
    handleApi true (rollbackOf "/api/v1/agents/a1/rollback") = .rollback "a1".toList ∧
      Extracts rollbackRoute "/api/v1/agents/a1/rollback".toList := by
  have parts := @extraction_iff rollbackRoute List.mem_cons_self
    (rollbackOf "/api/v1/agents/a1/rollback") (by decide) (by decide)
  exact ⟨parts.1.trans (by decide), parts.2.mpr (by decide)⟩

/-- The agent that is looked up is called `rollback`, and the size has wrapped around. -/
theorem shared_slash_wraps :
    handleApi true (rollbackOf "/api/v1/agents/rollback") = .rollback "rollback".toList ∧
      rollbackRoute.count "/api/v1/agents/rollback".toList = 2 ^ 64 - 1 ∧
      ¬ Extracts rollbackRoute "/api/v1/agents/rollback".toList := by
  refine ⟨by decide, by decide, ?_⟩
  intro extracts
  exact absurd extracts.no_wrap (by decide)

/-! Texts that another decoding leaves as they are -/

def Stable (text : List Char) : Prop :=
  '+' ∉ text ∧ ∀ before x y rest, text = before ++ '%' :: x :: y :: rest → fromCharsHex x y = none

theorem stable_cons {c : Char} {rest : List Char} :
    Stable (c :: rest) ↔ c ≠ '+' ∧
      (∀ x y behind, c = '%' → rest = x :: y :: behind → fromCharsHex x y = none) ∧ Stable rest := by
  constructor
  · intro stable
    refine ⟨?_, ?_, ?_, ?_⟩
    · rintro rfl
      exact stable.1 List.mem_cons_self
    · rintro x y behind rfl rfl
      exact stable.2 [] x y behind rfl
    · intro plus
      exact stable.1 (List.mem_cons_of_mem _ plus)
    · rintro before x y behind rfl
      exact stable.2 (c :: before) x y behind rfl
  · rintro ⟨other, here, stable⟩
    constructor
    · intro plus
      rcases List.mem_cons.mp plus with rfl | later
      · exact other rfl
      · exact stable.1 later
    · intro before x y behind shape
      cases before with
      | nil =>
        obtain ⟨percent, rest_eq⟩ := List.cons.inj shape
        exact here x y behind percent rest_eq
      | cons d before =>
        obtain ⟨_, rest_eq⟩ := List.cons.inj shape
        exact stable.2 before x y behind rest_eq

theorem urlDecode_length (text : List Char) : (urlDecode text).length ≤ text.length := by
  induction text using urlDecode.induct with
  | case1 x y rest byte read ih =>
    rw [urlDecode_escape, read]
    simp only [List.length_cons]
    omega
  | case2 x y rest unread ih =>
    rw [urlDecode_escape, unread]
    simpa using ih
  | case3 c rest not_escape ih =>
    have copied : urlDecode (c :: rest) = unplus c :: urlDecode rest := by
      rw [urlDecode]
      exact not_escape
    rw [copied]
    simpa using ih
  | case4 => simp [urlDecode]

theorem urlDecode_self_iff (text : List Char) : urlDecode text = text ↔ Stable text := by
  induction text using urlDecode.induct with
  | case1 x y rest byte read ih =>
    have shorter := urlDecode_length rest
    rw [urlDecode_escape, read]
    refine iff_of_false ?_ ?_
    · intro same
      have sizes := congrArg List.length same
      simp only [List.length_cons] at sizes
      omega
    · intro stable
      have unread := stable.2 [] x y rest rfl
      rw [read] at unread
      cases unread
  | case2 x y rest unread ih =>
    rw [urlDecode_escape, unread, stable_cons, List.cons.injEq, ih]
    constructor
    · rintro ⟨_, stable⟩
      refine ⟨by decide, ?_, stable⟩
      rintro x' y' behind _ shape
      cases shape
      exact unread
    · rintro ⟨_, _, stable⟩
      exact ⟨rfl, stable⟩
  | case3 c rest not_escape ih =>
    have copied : urlDecode (c :: rest) = unplus c :: urlDecode rest := by
      rw [urlDecode]
      exact not_escape
    rw [copied, stable_cons, List.cons.injEq, ih]
    have same_sign : unplus c = c ↔ c ≠ '+' := by
      unfold unplus
      split
      · rename_i plus
        subst plus
        exact iff_of_false (by decide) (fun other => other rfl)
      · rename_i other
        exact iff_of_true rfl other
    constructor
    · rintro ⟨sign, stable⟩
      exact ⟨same_sign.mp sign, fun x y behind percent shape =>
        (not_escape x y behind percent shape).elim, stable⟩
    · rintro ⟨sign, _, stable⟩
      exact ⟨same_sign.mpr sign, stable⟩
  | case4 => simp [urlDecode, Stable]

theorem Stable.front {text behind : List Char} (stable : Stable (text ++ behind)) :
    Stable text := by
  constructor
  · intro plus
    exact stable.1 (List.mem_append_left _ plus)
  · rintro before x y rest rfl
    exact stable.2 before x y (rest ++ behind) (by simp)

/-- An id that reads differently when it is decoded another time. -/
def DecodesAgain (agentId : List Char) : Prop :=
  '+' ∈ agentId ∨ ∃ before x rest, agentId = before ++ '%' :: x :: rest ∧
    ((hexValue x).isSome = true ∨
      x = '-' ∧ ∃ y behind, rest = y :: behind ∧ (hexValue y).isSome = true)

theorem read_of_digit {x : Char} (y : Char) (digit : (hexValue x).isSome = true) :
    (fromCharsHex x y).isSome = true := by
  obtain ⟨high, first⟩ := Option.isSome_iff_exists.mp digit
  unfold fromCharsHex
  rw [first]
  cases hexValue y <;> rfl

theorem read_of_sign {y : Char} (digit : (hexValue y).isSome = true) :
    (fromCharsHex '-' y).isSome = true := by
  obtain ⟨low, second⟩ := Option.isSome_iff_exists.mp digit
  simp [fromCharsHex, hexValue_minus, second]

theorem unread {x y : Char} (first : hexValue x = none)
    (second : x ≠ '-' ∨ hexValue y = none) : fromCharsHex x y = none := by
  unfold fromCharsHex
  rw [first]
  cases digit : hexValue y with
  | none => rfl
  | some low =>
    rcases second with sign | none_read
    · exact if_neg sign
    · rw [digit] at none_read
      cases none_read

/-- With a part of the path behind it an id is stable just if it does not decode again. -/
theorem stable_behind_iff {agentId tail : List Char} (plain : ∀ c ∈ tail, Literal c) :
    Stable (agentId ++ '/' :: tail) ↔ ¬ DecodesAgain agentId := by
  have slash : hexValue '/' = none := by decide
  constructor
  · rintro stable (plus | ⟨before, x, rest, rfl, digit | ⟨rfl, y, behind, rfl, digit⟩⟩)
    · exact stable.1 (List.mem_append_left _ plus)
    · obtain ⟨y, behind, next⟩ : ∃ y behind, rest ++ '/' :: tail = y :: behind :=
        List.exists_cons_of_ne_nil (by simp)
      have none_read := stable.2 before x y behind (by simp [← next])
      have read := read_of_digit y digit
      rw [none_read] at read
      cases read
    · have none_read := stable.2 before '-' y (behind ++ '/' :: tail) (by simp)
      have read := read_of_sign digit
      rw [none_read] at read
      cases read
  · intro once
    simp only [DecodesAgain, not_or] at once
    obtain ⟨no_plus, no_escape⟩ := once
    constructor
    · intro plus
      rcases List.mem_append.mp plus with inside | behind
      · exact no_plus inside
      · rcases List.mem_cons.mp behind with sign | later
        · exact absurd sign (by decide)
        · exact (plain _ later).2 rfl
    · intro before x y rest shape
      have percent_inside : ∃ after, agentId = before ++ '%' :: after ∧
          after ++ '/' :: tail = x :: y :: rest := by
        obtain ⟨middle, before_eq, behind_eq⟩ | ⟨middle, agentId_eq, behind_eq⟩ :=
          List.append_eq_append_iff.mp shape
        · have here : '%' ∈ '/' :: tail := by rw [behind_eq]; simp
          rcases List.mem_cons.mp here with sign | later
          · exact absurd sign (by decide)
          · exact absurd rfl (plain _ later).1
        · cases middle with
          | nil =>
            have sign := (List.cons.inj behind_eq).1
            exact absurd sign (by decide)
          | cons c middle =>
            obtain ⟨percent, later⟩ := List.cons.inj behind_eq
            subst percent
            exact ⟨middle, agentId_eq, later.symm⟩
      obtain ⟨after, agentId_eq, shape'⟩ := percent_inside
      cases after with
      | nil =>
        obtain ⟨rfl, _⟩ := List.cons.inj shape'
        exact unread slash (Or.inl (by decide))
      | cons first later =>
        obtain ⟨rfl, shape''⟩ := List.cons.inj shape'
        have no_digit : hexValue first = none := by
          by_contra digit
          exact no_escape ⟨before, first, later, agentId_eq,
            Or.inl (Option.isSome_iff_ne_none.mpr digit)⟩
        cases later with
        | nil =>
          obtain ⟨rfl, _⟩ := List.cons.inj shape''
          exact unread no_digit (Or.inr slash)
        | cons second behind =>
          obtain ⟨rfl, _⟩ := List.cons.inj shape''
          by_cases sign : first = '-'
          · refine unread no_digit (Or.inr ?_)
            by_contra digit
            exact no_escape ⟨before, first, second :: behind, agentId_eq,
              Or.inr ⟨sign, second, behind, rfl, Option.isSome_iff_ne_none.mpr digit⟩⟩
          · exact unread no_digit (Or.inl sign)

/-! Requests under an agent -/

/-- Bytes that need no escape in a path. -/
def unreserved (c : Char) : Bool := c.isAlphanum || c = '-' || c = '.' || c = '_' || c = '~'

/-- Bytes that a path may hold as they are: all but the signs with a meaning there. -/
def InPath (c : Char) : Prop := Literal c ∧ c ≠ '?'

theorem unreserved_inPath {c : Char} (free : unreserved c = true) : InPath c := by
  have percent : unreserved '%' = false := by decide
  have plus : unreserved '+' = false := by decide
  have question : unreserved '?' = false := by decide
  refine ⟨⟨?_, ?_⟩, ?_⟩
  · rintro rfl
    rw [percent] at free
    cases free
  · rintro rfl
    rw [plus] at free
    cases free
  · rintro rfl
    rw [question] at free
    cases free

theorem request_path {method : String} {target path : List Char}
    (encodes : Encodes InPath target path) :
    toApplicationRequest method target = ⟨method, target, path, []⟩ := by
  have question : hexValue '?' = none := by decide
  have absent : '?' ∉ target := by
    intro inside
    rcases encodes.mem _ inside with plain | percent | digit
    · exact plain.2 rfl
    · exact absurd percent (by decide)
    · rw [question] at digit
      cases digit
  have decoded := urlDecode_encodes (encodes.weaken fun c plain => plain.1)
  unfold toApplicationRequest
  rw [no_stop absent]
  simp only [decoded]

/-- The target of a resource of an agent; `suffix` is the rest of the path behind the id. -/
def agentTarget (encoded suffix : List Char) : List Char := agentsFront ++ encoded ++ suffix

theorem inPath_suffix {suffix : List Char}
    (free : ∀ c ∈ suffix, unreserved c = true ∨ c = '/') : ∀ c ∈ suffix, InPath c := by
  intro c inside
  rcases free c inside with letter | rfl
  · exact unreserved_inPath letter
  · exact ⟨⟨by decide, by decide⟩, by decide⟩

theorem agentTarget_path {encoded agentId suffix : List Char} (method : String)
    (encodes : Encodes (fun c => unreserved c = true) encoded agentId)
    (plain : ∀ c ∈ suffix, InPath c) :
    toApplicationRequest method (agentTarget encoded suffix) =
      ⟨method, agentTarget encoded suffix, agentTarget agentId suffix, []⟩ := by
  apply request_path
  have front : ∀ c ∈ agentsFront, InPath c :=
    inPath_suffix (List.all_iff_forall_prop.mp (by decide))
  exact ((Encodes.self front).append (encodes.weaken fun c => unreserved_inPath)).append
    (Encodes.self plain)

/-- The five requests look up the agent. -/
structure AddressesAgent (encoded agentId : List Char) : Prop where
  agent : handleApi true (toApplicationRequest "GET" (agentTarget encoded [])) = .agent agentId
  assets : handleApi true (toApplicationRequest "GET" (agentTarget encoded "/assets".toList)) =
    .assets agentId
  latestAsset : handleApi true
    (toApplicationRequest "GET" (agentTarget encoded "/assets/latest".toList)) =
      .latestAsset agentId
  upgrade : handleApi true (toApplicationRequest "POST" (agentTarget encoded "/upgrade".toList)) =
    .upgrade agentId
  rollback : handleApi true
    (toApplicationRequest "POST" (agentTarget encoded "/rollback".toList)) = .rollback agentId

theorem agentTarget_length (agentId suffix : List Char) :
    (agentTarget agentId suffix).length = (agentsFront ++ agentId).length + suffix.length :=
  List.length_append

/-- What a reading request under an agent is answered with, by the decoded tail. -/
def agentAnswer (rest : List Char) : Option Handled :=
  match rest.dropWhile (· ≠ '/') with
  | [] => some (.agent rest)
  | _ :: suffix =>
    if suffix = "assets/latest".toList then some (.latestAsset (rest.takeWhile (· ≠ '/')))
    else if suffix = "assets".toList then some (.assets (rest.takeWhile (· ≠ '/')))
    else none

theorem handleAgentApi_get (target body : List Char) :
    handleAgentApi ⟨"GET", target, agentsFront ++ body, []⟩ = agentAnswer (urlDecode body) := by
  have starts : agentsFront <+: agentsFront ++ body := List.prefix_append _ _
  have other : agentsFront ++ body ≠ "/api/v1/agents".toList :=
    path_excluded starts (by decide)
  have tail : pathTail (agentsFront ++ body) agentsFront = urlDecode body := by
    rw [pathTail, if_pos (List.isPrefixOf_iff_prefix.mpr starts), List.drop_left]
  unfold handleAgentApi agentAnswer
  rw [if_neg fun here => other here.2, if_pos ⟨rfl, List.isPrefixOf_iff_prefix.mpr starts⟩]
  simp only [tail]

theorem handleApi_get (allowHighRiskWrite : Bool) (target body : List Char) :
    handleApi allowHighRiskWrite ⟨"GET", target, agentsFront ++ body, []⟩ =
      (agentAnswer (urlDecode body)).getD .notFound := by
  have starts : agentsFront <+: agentsFront ++ body := List.prefix_append _ _
  have install : handleInstallApi ⟨"GET", target, agentsFront ++ body, []⟩ = none :=
    handleInstallApi_other starts (by decide)
  have get : "GET" ≠ "POST" := by decide
  have rollback : rollbackRoute.reached ⟨"GET", target, agentsFront ++ body, []⟩ = false :=
    not_reached (Or.inl get)
  have upgrade : upgradeRoute.reached ⟨"GET", target, agentsFront ++ body, []⟩ = false :=
    not_reached (Or.inl get)
  have mutation : handleAgentMutationApi allowHighRiskWrite
      ⟨"GET", target, agentsFront ++ body, []⟩ = none := by
    simp [handleAgentMutationApi, rollback, upgrade]
  have admin : handleAdminPackageApi ⟨"GET", target, agentsFront ++ body, []⟩ = none :=
    handleAdminPackageApi_other (path_excluded starts (by decide))
      (front_excluded starts (by decide))
  have download : handlePackageDownloadApi ⟨"GET", target, agentsFront ++ body, []⟩ = none := by
    have apart : downloadRoute.reached ⟨"GET", target, agentsFront ++ body, []⟩ = false :=
      not_reached (Or.inr (Or.inl (front_excluded starts (by decide))))
    simp [handlePackageDownloadApi, apart]
  unfold handleApi
  rw [handleAgentApi_get, install, mutation, admin, download]
  simp

theorem agentAnswer_id {agentId : List Char} (no_slash : '/' ∉ agentId) :
    agentAnswer agentId = some (.agent agentId) := by
  unfold agentAnswer
  rw [no_stop no_slash]

theorem agentAnswer_behind {agentId suffix : List Char} (no_slash : '/' ∉ agentId) :
    agentAnswer (agentId ++ '/' :: suffix) =
      if suffix = "assets/latest".toList then some (.latestAsset agentId)
      else if suffix = "assets".toList then some (.assets agentId)
      else none := by
  obtain ⟨front, back⟩ := @split_first '/' agentId suffix no_slash
  unfold agentAnswer
  simp only [front, back]

/-- Only the id with the resource behind it is answered with the assets of the agent. -/
theorem assets_answered {rest agentId : List Char}
    (answered : (agentAnswer rest).getD .notFound = .assets agentId) :
    rest = agentId ++ "/assets".toList := by
  unfold agentAnswer at answered
  split at answered
  · cases answered
  · rename_i slash suffix behind
    have nonempty : rest.dropWhile (· ≠ '/') ≠ [] := by rw [behind]; simp
    have stops := List.head_dropWhile_not _ nonempty
    simp only [behind, List.head_cons] at stops
    have is_slash : slash = '/' := by simpa using stops
    split at answered
    · cases answered
    · split at answered
      · rename_i assets
        cases answered
        have whole := List.takeWhile_append_dropWhile (p := (· ≠ '/')) (l := rest)
        rw [behind, is_slash, assets] at whole
        exact whole.symm
      · cases answered

theorem post_answered {route : ParameterRoute} (management : route ∈ managementRoutes)
    (method : route.method = "POST") (front : route.front = agentsFront)
    {encoded agentId : List Char}
    (encodes : Encodes (fun c => unreserved c = true) encoded agentId)
    (plain : ∀ c ∈ route.back, InPath c)
    (fits : (agentTarget agentId route.back).length < 2 ^ 64) :
    handleApi true (toApplicationRequest "POST" (agentTarget encoded route.back)) =
      route.handled agentId := by
  rw [agentTarget_path "POST" encodes plain]
  have reached : route.reached ⟨"POST", agentTarget encoded route.back,
      agentTarget agentId route.back, []⟩ = true := by
    refine reached_iff.mpr ⟨method.symm, ?_, ?_⟩
    · rw [front, agentTarget, List.append_assoc]
      exact List.prefix_append _ _
    · exact List.suffix_append _ _
  rw [handled_management management reached]
  have cut : route.parameter (agentTarget agentId route.back) = agentId := by
    unfold agentTarget at fits ⊢
    rw [← front] at fits ⊢
    exact parameter_between fits
  rw [cut]

theorem get_answered {encoded agentId suffix : List Char}
    (encodes : Encodes (fun c => unreserved c = true) encoded agentId)
    (plain : ∀ c ∈ suffix, InPath c) :
    handleApi true (toApplicationRequest "GET" (agentTarget encoded suffix)) =
      (agentAnswer (urlDecode (agentId ++ suffix))).getD .notFound := by
  rw [agentTarget_path "GET" encodes plain]
  rw [show agentTarget agentId suffix = agentsFront ++ (agentId ++ suffix) from
    List.append_assoc _ _ _, handleApi_get]

/-- The five requests of an agent look up its id, however it was percent-encoded, just if
    the id does not read differently when it is decoded another time. -/
theorem addressing_iff {agentId : List Char} (no_slash : '/' ∉ agentId)
    (bytes : ∀ c ∈ agentId, c.toNat < 256)
    (fits : (agentTarget agentId "/assets/latest".toList).length < 2 ^ 64) :
    (∀ encoded, Encodes (fun c => unreserved c = true) encoded agentId →
      AddressesAgent encoded agentId) ↔ ¬ DecodesAgain agentId := by
  have assets_plain := @inPath_suffix "/assets".toList (List.all_iff_forall_prop.mp (by decide))
  have latest_plain := @inPath_suffix "/assets/latest".toList (List.all_iff_forall_prop.mp (by decide))
  have assets_shape : "/assets".toList = '/' :: "assets".toList := rfl
  have latest_shape : "/assets/latest".toList = '/' :: "assets/latest".toList := rfl
  have behind_plain : ∀ c ∈ "assets/latest".toList, Literal c := fun c inside =>
    (latest_plain c (List.mem_cons_of_mem _ inside)).1
  have behind_plain' : ∀ c ∈ "assets".toList, Literal c := fun c inside =>
    (assets_plain c (List.mem_cons_of_mem _ inside)).1
  constructor
  · intro addressed
    have encodes := encode_encodes unreserved bytes
    have answered := (addressed _ encodes).assets
    rw [get_answered encodes assets_plain] at answered
    have same := assets_answered answered
    rw [urlDecode_self_iff, assets_shape, stable_behind_iff behind_plain'] at same
    exact same
  · intro once encoded encodes
    have assets := (urlDecode_self_iff _).mpr ((stable_behind_iff behind_plain').mpr once)
    have stable := (stable_behind_iff behind_plain).mpr once
    have latest := (urlDecode_self_iff _).mpr stable
    have alone := (urlDecode_self_iff _).mpr stable.front
    have upgrade_fits : (agentTarget agentId upgradeRoute.back).length < 2 ^ 64 := by
      rw [agentTarget_length] at fits ⊢
      exact Nat.lt_of_le_of_lt (Nat.add_le_add_left (by decide) _) fits
    have rollback_fits : (agentTarget agentId rollbackRoute.back).length < 2 ^ 64 := by
      rw [agentTarget_length] at fits ⊢
      exact Nat.lt_of_le_of_lt (Nat.add_le_add_left (by decide) _) fits
    constructor
    · rw [get_answered encodes (by simp), List.append_nil, alone, agentAnswer_id no_slash]
      rfl
    · rw [get_answered encodes assets_plain, assets_shape, assets, agentAnswer_behind no_slash]
      rfl
    · rw [get_answered encodes latest_plain, latest_shape, latest, agentAnswer_behind no_slash]
      rfl
    · exact @post_answered upgradeRoute (by simp [managementRoutes]) rfl rfl _ _ encodes
        (inPath_suffix (List.all_iff_forall_prop.mp (by decide))) upgrade_fits
    · exact @post_answered rollbackRoute (by simp [managementRoutes]) rfl rfl _ _ encodes
        (inPath_suffix (List.all_iff_forall_prop.mp (by decide))) rollback_fits

theorem addressing_iff_percent :
    (∀ encoded, Encodes (fun c => unreserved c = true) encoded "50% off".toList →
      AddressesAgent encoded "50% off".toList) ↔ ¬ DecodesAgain "50% off".toList :=
  addressing_iff (by decide) (List.all_iff_forall_prop.mp (by decide)) (by decide)

/-- The agent `a+b` is asked for as `a%2Bb`, and `a b` is looked up. -/
theorem plus_decoded_again :
    handleApi true (toApplicationRequest "GET" "/api/v1/agents/a%2Bb".toList) =
        .agent "a b".toList ∧
      handleApi true (toApplicationRequest "POST" "/api/v1/agents/a%2Bb/rollback".toList) =
        .rollback "a+b".toList ∧
      ¬ ∀ encoded, Encodes (fun c => unreserved c = true) encoded "a+b".toList →
        AddressesAgent encoded "a+b".toList := by
  have looked_up : handleApi true (toApplicationRequest "GET" "/api/v1/agents/a%2Bb".toList) =
      .agent "a b".toList := by decide
  refine ⟨looked_up, by decide, ?_⟩
  intro addressed
  have encodes : Encodes (fun c => unreserved c = true) "a%2Bb".toList "a+b".toList :=
    @encode_encodes unreserved "a+b".toList (List.all_iff_forall_prop.mp (by decide))
  have answered := (addressed _ encodes).agent
  rw [show agentTarget "a%2Bb".toList [] = "/api/v1/agents/a%2Bb".toList from rfl,
    looked_up] at answered
  exact absurd answered (by decide)

end AdminRoutes
