import PanicMonitr.Control.Requests
import PanicMonitr.Foundation.Urls

/-!
# The tag of a request to remove one

`--remove-tag` puts the tag into the target of its request as it is.  The HTTP client sends
only some targets, and the daemon reads the tag back out of the query.
-/

namespace PanicMonitr
namespace Control

open Foundation
open Trust

/-!
## The request line
-/

inductive LineError where
  | invalidUrl
  | notAscii
  | uriTooLong
  | badRequest
  deriving DecidableEq

/-- `_contains_disallowed_url_pchar_re` of `http.client` -/
def isDisallowed (c : Char) : Bool :=
  c.toNat <= 0x20 || c.toNat = 0x7f

/-- `putrequest(method, target)`: the line that is sent. -/
def putRequest (method target : List Char) : Except LineError (List Char) :=
  if target.any isDisallowed = true then Except.error LineError.invalidUrl
  else
    let line := method ++ ' ' :: (target ++ " HTTP/1.1\r\n".toList)
    if line.all isAscii = true then Except.ok line else Except.error LineError.notAscii

/-- `line.split()`; the end of the line is white space as well. -/
def requestWords (line : List Char) : List (List Char) :=
  (line.splitOnP isSpace).filter (fun word => word ≠ [])

/-- The target, as `handle_one_request` and `parse_request` find it. -/
def readRequestLine (line : List Char) : Except LineError (List Char) :=
  if 65536 < line.length then Except.error LineError.uriTooLong
  else
    match requestWords line with
    | _ :: target :: _ => Except.ok target
    | _ => Except.error LineError.badRequest

/-- `f"/v1/peers/{nid}/tags?tag={tag}"` -/
def tagTarget (nid tag : String) : String :=
  "/v1/peers/" ++ nid ++ "/tags?tag=" ++ tag

theorem wf_emptyObject (v : Json) (h : Except.ok (Json.obj []) = (Except.ok v : Except PyError Json)) :
    Json.Wf v := by
  cases h
  exact ⟨List.nodup_nil, trivial⟩

/-- `DELETE` of a target, without a body, as the handler sees it. -/
def deleteRequest (euid : Option Nat) (target : List Char) : Request where
  euid := euid
  method := Method.delete
  path := String.ofList (urlPath target)
  queryTag := (queryValue "tag".toList (urlQuery target)).map String.ofList
  body := Except.ok (Json.obj [])
  hbody := wf_emptyObject

@[simp] theorem deleteRequest_path (euid : Option Nat) (target : List Char) :
    (deleteRequest euid target).path = String.ofList (urlPath target) :=
  rfl

@[simp] theorem deleteRequest_queryTag (euid : Option Nat) (target : List Char) :
    (deleteRequest euid target).queryTag =
      (queryValue "tag".toList (urlQuery target)).map String.ofList :=
  rfl

/-- `--remove-tag` through the socket, up to the handler. -/
def removeTagRequest (euid : Option Nat) (nid tag : String) : Except LineError Request := do
  let line <- putRequest Method.delete.name.toList (tagTarget nid tag).toList
  let target <- readRequestLine line
  return deleteRequest euid target

/-!
## The targets that arrive
-/

/-- What a target may be made of. -/
def isGraphic (c : Char) : Bool :=
  0x20 < c.toNat && c.toNat < 0x7f

theorem isGraphic_iff (c : Char) :
    isGraphic c = true <-> isDisallowed c = false ∧ isAscii c = true := by
  unfold isGraphic isDisallowed isAscii
  simp only [Bool.and_eq_true, decide_eq_true_eq, Bool.or_eq_false_iff, decide_eq_false_iff_not]
  omega

theorem isSpace_of_isGraphic {c : Char} (h : isGraphic c = true) : isSpace c = false := by
  simp only [isGraphic, Bool.and_eq_true, decide_eq_true_eq] at h
  have hne : forall d : Char, 0x7f <= d.toNat -> decide (c = d) = false := by
    intro d hd
    refine decide_eq_false (fun hcd : c = d => ?_)
    rw [hcd] at h
    omega
  unfold isSpace
  rw [hne '\u0085' (by decide), hne '\u00a0' (by decide), hne '\u1680' (by decide),
    hne '\u2028' (by decide), hne '\u2029' (by decide), hne '\u202f' (by decide),
    hne '\u205f' (by decide), hne '\u3000' (by decide)]
  simp only [Bool.or_false, Bool.or_eq_false_iff, Bool.and_eq_false_iff, decide_eq_false_iff_not]
  omega

section Targets

variable {method target : List Char}

theorem putRequest_graphic (hmethod : method.all isAscii = true)
    (htarget : target.all isGraphic = true) :
    putRequest method target = Except.ok (method ++ ' ' :: (target ++ " HTTP/1.1\r\n".toList)) := by
  have hallowed : target.any isDisallowed = false := by
    rw [List.any_eq_false]
    intro c hc
    rw [((isGraphic_iff c).mp (List.all_eq_true.mp htarget c hc)).left]
    exact Bool.false_ne_true
  have hascii : target.all isAscii = true := by
    rw [List.all_eq_true] at htarget ⊢
    exact fun c hc => ((isGraphic_iff c).mp (htarget c hc)).right
  have hline : (method ++ ' ' :: (target ++ " HTTP/1.1\r\n".toList)).all isAscii = true := by
    rw [List.all_append, List.all_cons, List.all_append, hmethod, hascii]
    decide
  unfold putRequest
  rw [hallowed, if_neg Bool.false_ne_true]
  exact if_pos hline

theorem putRequest_ok {line : List Char} (h : putRequest method target = Except.ok line) :
    target.all isGraphic = true := by
  unfold putRequest at h
  split at h
  · cases h
  · rename_i hallowed
    simp only at h
    split at h
    · rename_i hascii
      rw [List.all_eq_true] at hascii ⊢
      intro c hc
      refine (isGraphic_iff c).mpr ⟨?_, hascii c (by simp [hc])⟩
      by_contra hdisallowed
      exact hallowed (List.any_eq_true.mpr ⟨c, hc, Bool.not_eq_false _ ▸ hdisallowed⟩)
    · cases h

theorem requestWords_line (hmethod : method.all isGraphic = true) (hmethod' : method ≠ [])
    (htarget : target.all isGraphic = true) (htarget' : target ≠ []) :
    requestWords (method ++ ' ' :: (target ++ " HTTP/1.1\r\n".toList)) =
      [method, target, "HTTP/1.1".toList] := by
  have hword : forall word : List Char, word.all isGraphic = true ->
      forall c, c ∈ word -> isSpace c = false := fun word hall c hc =>
    isSpace_of_isGraphic (List.all_eq_true.mp hall c hc)
  have hend : " HTTP/1.1\r\n".toList =
      ' ' :: ("HTTP/1.1".toList ++ '\r' :: ([] ++ '\n' :: [])) := by decide
  unfold requestWords
  rw [hend, List.splitOnP_append_cons_of_forall_mem (hword method hmethod) ' ' (by decide),
    List.splitOnP_append_cons_of_forall_mem (hword target htarget) ' ' (by decide),
    List.splitOnP_append_cons_of_forall_mem (hword "HTTP/1.1".toList (by decide)) '\r' (by decide),
    List.splitOnP_append_cons_of_forall_mem (hword [] rfl) '\n' (by decide),
    List.splitOnP_nil]
  rw [List.filter_cons_of_pos (by simpa using hmethod'),
    List.filter_cons_of_pos (by simpa using htarget')]
  rfl

theorem readRequestLine_line (hmethod : method.all isGraphic = true) (hmethod' : method ≠ [])
    (htarget : target.all isGraphic = true) (htarget' : target ≠ []) :
    readRequestLine (method ++ ' ' :: (target ++ " HTTP/1.1\r\n".toList)) =
      if 65536 < method.length + target.length + 12 then Except.error LineError.uriTooLong
      else Except.ok target := by
  have hlength : (method ++ ' ' :: (target ++ " HTTP/1.1\r\n".toList)).length =
      method.length + target.length + 12 := by
    have hend : " HTTP/1.1\r\n".toList.length = 11 := by decide
    rw [List.length_append, List.length_cons, List.length_append, hend]
    omega
  unfold readRequestLine
  rw [hlength, requestWords_line hmethod hmethod' htarget htarget']

end Targets

/-!
## The target with a tag
-/

/-- A tag that is its own encoding in a query, in a line short enough to be read. -/
structure PlainTag (tag : String) : Prop where
  literal : Literal tag.toList
  fragment : '#' ∉ tag.toList
  graphic : tag.toList.all isGraphic = true
  short : tag.toList.length <= 65434

section Tags

variable {euid : Option Nat} {nid tag : String}

def tagsPath (nid : String) : List Char :=
  "/v1/peers/".toList ++ nid.toList ++ "/tags".toList

theorem tagTarget_toList (nid tag : String) :
    (tagTarget nid tag).toList = tagsPath nid ++ '?' :: ("tag".toList ++ '=' :: tag.toList) := by
  have hmiddle : "/tags?tag=".toList = "/tags".toList ++ '?' :: ("tag".toList ++ ['=']) := by decide
  unfold tagTarget tagsPath
  rw [String.toList_append, String.toList_append, String.toList_append, hmiddle]
  simp [List.append_assoc]

theorem char_of_tagsPath (hvalid : validateNodeId nid = true) {c : Char}
    (hc : c ∈ tagsPath nid) : c ∈ "/v1/peers/tags".toList ∨ isLowerHex c = true ∨ c = '\n' := by
  unfold tagsPath at hc
  rcases List.mem_append.mp hc with hc | hc
  · rcases List.mem_append.mp hc with hc | hc
    · left
      have hall : "/v1/peers/".toList ⊆ "/v1/peers/tags".toList := by decide
      exact hall hc
    · exact Or.inr (char_of_validateNodeId hvalid hc)
  · left
    have hall : "/tags".toList ⊆ "/v1/peers/tags".toList := by decide
    exact hall hc

theorem not_mem_tagsPath (hvalid : validateNodeId nid = true) :
    '#' ∉ tagsPath nid ∧ '?' ∉ tagsPath nid ∧ ';' ∉ tagsPath nid := by
  have habsent : forall c : Char, c ∉ "/v1/peers/tags".toList -> isLowerHex c = false -> c ≠ '\n' ->
      c ∉ tagsPath nid := by
    intro c hfixed hhex hnewline hc
    rcases char_of_tagsPath hvalid hc with h | h | h
    · exact hfixed h
    · rw [hhex] at h
      cases h
    · exact hnewline h
  exact ⟨habsent '#' (by decide) (by decide) (by decide),
    habsent '?' (by decide) (by decide) (by decide),
    habsent ';' (by decide) (by decide) (by decide)⟩

theorem isGraphic_of_isLowerHex {c : Char} (h : isLowerHex c = true) : isGraphic c = true := by
  unfold isLowerHex Char.isDigit at h
  simp only [Bool.or_eq_true, Bool.and_eq_true, decide_eq_true_eq] at h
  unfold isGraphic
  simp only [Bool.and_eq_true, decide_eq_true_eq]
  rcases h with ⟨hlow, hhigh⟩ | ⟨hlow, hhigh⟩
  · have hge : 48 <= c.toNat := hlow
    have hle : c.toNat <= 57 := hhigh
    omega
  · have hge : 97 <= c.toNat := hlow
    have hle : c.toNat <= 102 := hhigh
    omega

/-- Of the ids that pass as valid the ones with a newline cannot be sent. -/
theorem graphic_nid_iff (hvalid : validateNodeId nid = true) :
    nid.toList.all isGraphic = true <-> nid.toList.length = 64 := by
  have hparts := List.take_append_drop 64 nid.toList
  unfold validateNodeId at hvalid
  simp only [Bool.and_eq_true, Bool.or_eq_true, decide_eq_true_eq] at hvalid
  rcases hvalid with ⟨⟨hlength, hdigits⟩, hrest⟩
  have hfront : (nid.toList.take 64).all isGraphic = true :=
    List.all_eq_true.mpr (fun c hc =>
      isGraphic_of_isLowerHex (List.all_eq_true.mp hdigits c hc))
  rcases hrest with hnil | hnewline
  · rw [hnil, List.append_nil] at hparts
    rw [hparts] at hlength hfront
    exact ⟨fun _ => hlength, fun _ => hfront⟩
  · rw [hnewline] at hparts
    constructor
    · intro hgraphic
      rw [<- hparts, List.all_append, Bool.and_eq_true] at hgraphic
      cases hgraphic.right
    · intro hlong
      rw [<- hparts, List.length_append, hlength] at hlong
      cases hlong

/-- The tag as the daemon reads it. -/
def queryTagOf (tag : String) : Option (List Char) :=
  queryValue "tag".toList ("tag".toList ++ '=' :: tag.toList.takeWhile (fun c => c ≠ '#'))

theorem graphic_tagTarget (hvalid : validateNodeId nid = true) :
    (tagTarget nid tag).toList.all isGraphic = true <->
      nid.toList.length = 64 ∧ tag.toList.all isGraphic = true := by
  have hpeers : "/v1/peers/".toList.all isGraphic = true := by decide
  have htags : "/tags".toList.all isGraphic = true := by decide
  have hname : "tag".toList.all isGraphic = true := by decide
  have hquestion : isGraphic '?' = true := by decide
  have hequals : isGraphic '=' = true := by decide
  rw [tagTarget_toList, <- graphic_nid_iff hvalid]
  unfold tagsPath
  rw [List.all_append, List.all_append, List.all_append, List.all_cons, List.all_append,
    List.all_cons, hpeers, htags, hname, hquestion, hequals]
  simp

theorem length_tagTarget (nid tag : String) :
    (tagTarget nid tag).toList.length = nid.toList.length + tag.toList.length + 20 := by
  have hpeers : "/v1/peers/".toList.length = 10 := by decide
  have htags : "/tags".toList.length = 5 := by decide
  have hname : "tag".toList.length = 3 := by decide
  rw [tagTarget_toList]
  unfold tagsPath
  simp only [List.length_append, List.length_cons, hpeers, htags, hname]
  omega

/-- A target that is sent is read as it is, unless its line is too long. -/
theorem removeTagRequest_graphic (htarget : (tagTarget nid tag).toList.all isGraphic = true) :
    removeTagRequest euid nid tag =
      if 65536 < 6 + (tagTarget nid tag).toList.length + 12 then
        Except.error LineError.uriTooLong
      else Except.ok (deleteRequest euid (tagTarget nid tag).toList) := by
  have hmethod : Method.delete.name.toList.all isGraphic = true := by decide
  have hne : (tagTarget nid tag).toList ≠ [] := by
    intro hempty
    have hlength := length_tagTarget nid tag
    rw [hempty] at hlength
    cases hlength
  have hread := readRequestLine_line hmethod (by decide) htarget hne
  unfold removeTagRequest
  rw [putRequest_graphic (by decide) htarget]
  show (do
    let target <- readRequestLine _
    return deleteRequest euid target) = _
  rw [hread]
  split
  · rename_i hlong
    exact (if_pos hlong).symm
  · rename_i hshort
    exact (if_neg hshort).symm

theorem removeTagRequest_ok_iff (hvalid : validateNodeId nid = true) {request : Request} :
    removeTagRequest euid nid tag = Except.ok request <->
      nid.toList.length = 64 ∧ tag.toList.all isGraphic = true ∧ tag.toList.length <= 65434 ∧
        request = deleteRequest euid (tagTarget nid tag).toList := by
  have hlength := length_tagTarget nid tag
  constructor
  · intro hok
    cases hput : putRequest Method.delete.name.toList (tagTarget nid tag).toList with
    | error e =>
        unfold removeTagRequest at hok
        rw [hput] at hok
        cases hok
    | ok line =>
        have htarget := putRequest_ok hput
        rw [removeTagRequest_graphic htarget] at hok
        rcases (graphic_tagTarget hvalid).mp htarget with ⟨hnid, htag⟩
        split at hok
        · cases hok
        · cases hok
          exact ⟨hnid, htag, by omega, rfl⟩
  · intro h
    rcases h with ⟨hnid, htag, hshort, rfl⟩
    rw [removeTagRequest_graphic ((graphic_tagTarget hvalid).mpr ⟨hnid, htag⟩)]
    exact if_neg (by omega)

/-- The tag is read as itself exactly when it is literal and no fragment begins in it. -/
theorem queryTagOf_eq_iff (hgraphic : tag.toList.all isGraphic = true) :
    queryTagOf tag = some tag.toList <-> Literal tag.toList ∧ '#' ∉ tag.toList := by
  have hascii : tag.toList.all isAscii = true := by
    rw [List.all_eq_true] at hgraphic ⊢
    exact fun c hc => ((isGraphic_iff c).mp (hgraphic c hc)).right
  have hname : Literal "tag".toList := ⟨by decide, by decide, by decide, by decide⟩
  unfold queryTagOf
  by_cases hfragment : '#' ∈ tag.toList
  · constructor
    · intro hread
      have hprefix := List.takeWhile_prefix (fun c => decide (c ≠ '#')) (l := tag.toList)
      have hle := (queryValue_length (by decide) hname (by decide)
        (all_isAscii_of_part hprefix.isInfix hascii) hread).left
      -- what stands before the fragment is as long as the tag, so it is the tag
      have hwhole := hprefix.eq_of_length_le hle
      rw [<- hwhole] at hfragment
      exact absurd (List.mem_takeWhile_imp hfragment) (by decide)
    · exact fun h => absurd hfragment h.right
  · have hwhole : tag.toList.takeWhile (fun c => c ≠ '#') = tag.toList := by
      rw [List.takeWhile_eq_self_iff]
      exact fun c hc => decide_eq_true (fun hcd : c = '#' => hfragment (hcd ▸ hc))
    rw [hwhole, queryValue_eq_iff (by decide) hname (by decide) hascii]
    exact ⟨fun h => ⟨h, hfragment⟩, fun h => h.left⟩

theorem queryTag_deleteRequest (hvalid : validateNodeId nid = true) :
    (deleteRequest euid (tagTarget nid tag).toList).queryTag =
      (queryTagOf tag).map String.ofList := by
  rcases not_mem_tagsPath hvalid with ⟨hfragment, hquery, _⟩
  rw [deleteRequest_queryTag, tagTarget_toList, urlQuery_query hfragment hquery]
  rfl

theorem path_deleteRequest (hvalid : validateNodeId nid = true) :
    (deleteRequest euid (tagTarget nid tag).toList).path = String.ofList (tagsPath nid) := by
  rcases not_mem_tagsPath hvalid with ⟨hfragment, hquery, hparams⟩
  rw [deleteRequest_path, tagTarget_toList, urlPath_query hfragment hquery hparams]

theorem path_parts (hvalid : validateNodeId nid = true) :
    pathParts (trimPath (deleteRequest euid (tagTarget nid tag).toList).path) =
      ["v1", "peers", nid, "tags"] := by
  rw [path_deleteRequest hvalid]
  have hsub : '/' ∉ "tags".toList := by decide
  have hne : "tags".toList ≠ [] := by decide
  apply pathParts_trimPath _ (slash_not_mem hvalid) hsub hne
  rw [String.toList_ofList]
  unfold tagsPath
  rw [List.append_assoc]
  rfl

theorem route_deleteRequest {engine : Engine} {env : Serving} (hvalid : validateNodeId nid = true)
    (s : TrustState) :
    engine.route env (deleteRequest euid (tagTarget nid tag).toList) s =
      engine.deleteTag env nid (deleteRequest euid (tagTarget nid tag).toList) s := by
  have hmethod : (deleteRequest euid (tagTarget nid tag).toList).method = Method.delete := rfl
  have hparts : pathParts (trimPath (deleteRequest euid (tagTarget nid tag).toList).path) =
      ["v1", "peers", nid, "tags"] := path_parts hvalid
  unfold Engine.route
  simp only [hmethod, hparts]
  simp [Engine.routePeers, Engine.routeTags, hmethod]

end Tags

/-!
## Both sides name one tag
-/

/--
The request for a tag arrives, the daemon reads this tag from it, and its state afterwards
is the one `trust.remove_tag(nid, tag)` leaves.
-/
def RemovesSame (euid : Nat) (nid tag : String) : Prop :=
  exists request, removeTagRequest (some euid) nid tag = Except.ok request ∧
    request.queryTag = some tag ∧
    forall (engine : Engine) (env : Serving) (s : TrustState), env.euid = euid ->
      (engine.serve env request s).1 =
        (removeTag engine.keys env.toSurroundings nid (Json.str tag) s).1

section Same

variable {nid tag : String}

theorem reply_state (result : EngineResult) : (reply result).1 = result.1 := by
  rcases result with ⟨s, answer⟩
  cases answer with
  | returned err =>
      cases err with
      | none => rfl
      | some err => rfl
  | raised e => rfl
  | crashed => rfl

theorem orRefusal_state (refusal : String) (result : TrustState × Answer Bool) :
    (orRefusal refusal result).1 = result.1 := by
  rcases result with ⟨s, answer⟩
  cases answer with
  | returned b =>
      cases b with
      | true => rfl
      | false => rfl
  | raised e => rfl
  | crashed => rfl

theorem serve_state {engine : Engine} {env : Serving} {request : Request}
    (heuid : request.euid = some env.euid) (s : TrustState) :
    (engine.serve env request s).1 = (engine.route env request s).1 := by
  unfold Engine.serve
  rw [heuid]
  simp only [ne_eq, not_true_eq_false, if_false]
  rcases engine.route env request s with ⟨s', answer⟩
  cases answer with
  | returned response => rfl
  | raised e => rfl
  | crashed => rfl

theorem serve_deleteTag {engine : Engine} {env : Serving} (hvalid : validateNodeId nid = true)
    (hne : tag ≠ "") {request : Request}
    (hrequest : request = deleteRequest (some env.euid) (tagTarget nid tag).toList)
    (htag : request.queryTag = some tag) (s : TrustState) :
    (engine.serve env request s).1 =
      (removeTag engine.keys env.toSurroundings nid (Json.str tag) s).1 := by
  rw [serve_state (by rw [hrequest]; rfl), hrequest, route_deleteRequest hvalid, <- hrequest]
  unfold Engine.deleteTag
  have hkept : request.queryTag.filter (fun tag => tag ≠ "") = some tag := by
    rw [htag]
    exact Option.filter_some_pos (decide_eq_true hne)
  rw [hkept]
  simp only
  rw [reply_state]
  unfold Engine.removePeerTag Engine.mutatePeer
  rw [if_neg (by simp [hvalid]), orRefusal_state]

/-- The socket removes the same tag as the direct mode exactly when the tag is plain. -/
theorem remove_tag_same_iff (euid : Nat) (hvalid : validateNodeId nid = true) :
    RemovesSame euid nid tag <-> nid.toList.length = 64 ∧ PlainTag tag := by
  constructor
  · intro h
    rcases h with ⟨request, hrequest, htag, _⟩
    rcases (removeTagRequest_ok_iff hvalid).mp hrequest with ⟨hnid, hgraphic, hshort, rfl⟩
    rw [queryTag_deleteRequest hvalid] at htag
    rcases Option.map_eq_some_iff.mp htag with ⟨chars, hread, hchars⟩
    have hself : chars = tag.toList := by rw [<- hchars, String.toList_ofList]
    rw [hself] at hread
    rcases (queryTagOf_eq_iff hgraphic).mp hread with ⟨hliteral, hfragment⟩
    exact ⟨hnid, hliteral, hfragment, hgraphic, hshort⟩
  · intro h
    rcases h with ⟨hnid, hplain⟩
    have hread := (queryTagOf_eq_iff hplain.graphic).mpr ⟨hplain.literal, hplain.fragment⟩
    have htag : (deleteRequest (some euid) (tagTarget nid tag).toList).queryTag = some tag := by
      rw [queryTag_deleteRequest hvalid, hread]
      exact congrArg some String.ofList_toList
    refine ⟨_, (removeTagRequest_ok_iff hvalid).mpr
      ⟨hnid, hplain.graphic, hplain.short, rfl⟩, htag, ?_⟩
    intro engine env s heuid
    subst heuid
    have hne : tag ≠ "" := by
      intro hempty
      rw [hempty] at hplain
      exact hplain.literal.nonempty rfl
    exact serve_deleteTag hvalid hne rfl htag s

end Same

theorem remove_tag_same_prod : RemovesSame 0 peerId "prod" :=
  (remove_tag_same_iff 0 (by decide)).mpr
    ⟨by decide, ⟨by decide, by decide, by decide, by decide⟩, by decide, by decide, by decide⟩

/-- `a&b` is read as `a`. -/
theorem remove_tag_other :
    removeTagRequest (some 0) peerId "a&b" =
        Except.ok (deleteRequest (some 0) (tagTarget peerId "a&b").toList) ∧
      (deleteRequest (some 0) (tagTarget peerId "a&b").toList).queryTag = some "a" ∧
      ¬ RemovesSame 0 peerId "a&b" := by
  have hvalid : validateNodeId peerId = true := by decide
  have hrequest : removeTagRequest (some 0) peerId "a&b" =
      Except.ok (deleteRequest (some 0) (tagTarget peerId "a&b").toList) :=
    (removeTagRequest_ok_iff hvalid).mpr ⟨by decide, by decide, by decide, rfl⟩
  have htag : (deleteRequest (some 0) (tagTarget peerId "a&b").toList).queryTag = some "a" := by
    rw [queryTag_deleteRequest hvalid]
    decide
  refine ⟨hrequest, htag, ?_⟩
  rintro ⟨request, hsame, hread, _⟩
  rw [hrequest] at hsame
  cases hsame
  rw [htag] at hread
  exact absurd hread (by decide)

end Control
end PanicMonitr
