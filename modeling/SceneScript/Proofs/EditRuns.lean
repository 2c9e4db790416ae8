import SceneScript.Proofs.Consistency
import SceneScript.Proofs.Editing

/-!
# Runs of edits

`Script.runEdits` serves requests to edit lines one after another; a request that is refused changes nothing. What is kept when a script
is brought in line with a patch, whatever the patch, is kept by requests (`Script.runEdits_of_rebase`). As long as the file stays small
enough, the run on the script of an image is the run on the image (`Image.runEdits_script`), and all that such a run changes about the
image are the texts of its symbols (`Image.retexted_runEdits`). It does stay small if the caps of the requests leave room for it
(`Image.staysSmall_script`).
-/

namespace SceneScript

/-- A request to give a line another text. -/
structure EditRequest where
  index : Nat
  text : String
  /-- The most bytes that the text may take. -/
  cap : Nat
  deriving DecidableEq, Repr

namespace Script

/-- The script after a request. One that is refused leaves it as it is. -/
def applyEdit (script : Script) (request : EditRequest) : Script :=
  match script.edit request.index request.text request.cap with
  | .ok (edited, _) => edited
  | .error _ => script

/-- The script after requests, one after another. -/
def runEdits (script : Script) (requests : List EditRequest) : Script :=
  requests.foldl applyEdit script

/-- While requests are served, the file stays small enough for its positions to be signed words. -/
def StaysSmall (script : Script) (requests : List EditRequest) : Prop :=
  ∀ served, served <+: requests → (script.runEdits served).bytes.size < sizeLimit

theorem StaysSmall.size_lt {script : Script} {requests : List EditRequest} (h : script.StaysSmall requests) :
    script.bytes.size < sizeLimit :=
  h [] List.nil_prefix

theorem StaysSmall.tail {script : Script} {request : EditRequest} {requests : List EditRequest}
    (h : script.StaysSmall (request :: requests)) : (script.applyEdit request).StaysSmall requests :=
  fun served hserved => h (request :: served) (List.cons_prefix_cons.2 ⟨rfl, hserved⟩)

/-- An edit that succeeds leaves the script as it is, or brings it in line with a patch. -/
theorem eq_or_exists_rebase_of_edit {edited : Script} {index cap : Nat} {text : String} {outcome : EditOutcome}
    (h : script.edit index text cap = .ok (edited, outcome)) :
    edited = script ∨ ∃ patch bytes, edited = script.rebase patch bytes := by
  simp only [edit, bind_eq_ok_iff] at h
  obtain ⟨line, -, h⟩ := h
  split at h
  · rw [pure_eq_ok_iff, Prod.mk.injEq] at h
    exact .inl h.1.symm
  · simp only [bind_eq_ok_iff, pure_eq_ok_iff, Prod.mk.injEq] at h
    obtain ⟨patch, -, bytes, -, hedited, -⟩ := h
    exact .inr ⟨patch, bytes, hedited.symm⟩

/-- A property that every edit keeps, whatever its patch, is kept by requests. -/
theorem runEdits_of_rebase {P : Script → Prop} (h : ∀ script patch bytes, P script → P (rebase script patch bytes)) {script : Script}
    (hscript : P script) (requests : List EditRequest) : P (script.runEdits requests) := by
  induction requests generalizing script with
  | nil => exact hscript
  | cons request rest ih =>
    refine ih ?_
    unfold applyEdit
    split
    next edited outcome hedit =>
      rcases eq_or_exists_rebase_of_edit hedit with rfl | ⟨patch, bytes, rfl⟩
      · exact hscript
      · exact h script patch bytes hscript
    next => exact hscript

/-- What is the same after every edit, whatever its patch, is the same after requests. -/
theorem runEdits_keep {α : Type} (view : Script → α) (h : ∀ script patch bytes, view (rebase script patch bytes) = view script)
    (script : Script) (requests : List EditRequest) : view (script.runEdits requests) = view script :=
  runEdits_of_rebase (P := fun edited => view edited = view script) (fun edited patch bytes => (h edited patch bytes).trans) rfl requests

end Script

namespace Image

/-- The image after a request. One that is refused leaves it as it is. -/
def applyEdit (view : View) (image : Image) (request : EditRequest) : Image :=
  match image.edit? view request.index request.text request.cap with
  | some (edited, _) => edited
  | none => image

/-- The image after requests, one after another. -/
def runEdits (view : View) (image : Image) (requests : List EditRequest) : Image :=
  requests.foldl (applyEdit view) image

/-- The images differ in the texts of their symbols only. -/
structure Retexted (image edited : Image) : Prop where
  entries : edited.entries = image.entries
  body : edited.body = image.body
  symbols_length : edited.texts.symbols.length = image.texts.symbols.length

theorem Retexted.refl (image : Image) : image.Retexted image :=
  ⟨rfl, rfl, rfl⟩

theorem Retexted.trans {image edited last : Image} (h : image.Retexted edited) (h' : edited.Retexted last) :
    image.Retexted last :=
  ⟨h'.entries.trans h.entries, h'.body.trans h.body, h'.symbols_length.trans h.symbols_length⟩

theorem retexted_retext (image : Image) (index : Nat) (text : Bytes) : image.Retexted (image.retext index text) :=
  ⟨rfl, rfl, by simp⟩

/-- An edit of an image stores a text for the symbol that its line is, if it does anything. -/
theorem exists_mark_of_edit? {image edited : Image} {view : View} {index cap : Nat} {text : String} {outcome : EditOutcome}
    (h : image.edit? view index text cap = some (edited, outcome)) :
    ∃ mark, view.marks[index]? = some mark ∧ outcome.index = index ∧
      (edited = image ∨ ∃ bytes, edited = image.retext mark.symbolIndex bytes) := by
  unfold edit? at h
  split at h
  · nomatch h
  next mark hmark =>
    refine ⟨mark, hmark, ?_⟩
    split at h
    · cases h
      exact ⟨rfl, .inl rfl⟩
    · split at h
      · nomatch h
      · cases h
        exact ⟨rfl, .inr ⟨_, rfl⟩⟩

theorem retexted_of_edit? {image edited : Image} {view : View} {index cap : Nat} {text : String} {outcome : EditOutcome}
    (h : image.edit? view index text cap = some (edited, outcome)) : image.Retexted edited := by
  obtain ⟨mark, -, -, rfl | ⟨bytes, rfl⟩⟩ := exists_mark_of_edit? h
  · exact .refl _
  · exact retexted_retext image mark.symbolIndex bytes

theorem retexted_applyEdit (view : View) (image : Image) (request : EditRequest) :
    image.Retexted (image.applyEdit view request) := by
  unfold applyEdit
  split
  next hedit => exact retexted_of_edit? hedit
  next => exact .refl _

theorem retexted_runEdits (view : View) (image : Image) (requests : List EditRequest) :
    image.Retexted (image.runEdits view requests) := by
  induction requests generalizing image with
  | nil => exact .refl _
  | cons request rest ih => exact (retexted_applyEdit view image request).trans (ih _)

theorem Valid.of_edit? {image edited : Image} {encoding : Encoding} {view : View} {index cap : Nat} {text : String}
    {outcome : EditOutcome} (h : image.Valid encoding) (hedit : image.edit? view index text cap = some (edited, outcome))
    (hsize : edited.toBytes.size < sizeLimit) : edited.Valid encoding := by
  obtain ⟨mark, -, -, rfl | ⟨bytes, rfl⟩⟩ := exists_mark_of_edit? hedit
  · exact h
  · exact h.retext hsize

end Image

theorem View.Fits.of_retexted {view : View} {image edited : Image} (h : view.Fits image)
    (hretexted : image.Retexted edited) : view.Fits edited :=
  ⟨by rw [h.units_length, hretexted.entries], by rw [hretexted.body]; exact h.within,
    by rw [hretexted.symbols_length]; exact h.symbolIndex_lt⟩

namespace Image

/-- A request does the same to the script of an image as to the image, if the file stays small enough. -/
theorem applyEdit_script {image : Image} {view : View} {request : EditRequest} (hvalid : image.Valid view.encoding)
    (hfits : view.Fits image) (hsize : ((image.script view).applyEdit request).bytes.size < sizeLimit) :
    (image.script view).applyEdit request = (image.applyEdit view request).script view ∧
      (image.applyEdit view request).Valid view.encoding := by
  unfold Script.applyEdit at hsize ⊢
  unfold applyEdit
  match hedit : image.edit? view request.index request.text request.cap with
  | none =>
    obtain ⟨e, he⟩ := edit_script_of_none hvalid hfits hedit
    simp only [he]
    exact ⟨trivial, hvalid⟩
  | some (edited, outcome) =>
    obtain ⟨script, hscript, hbytes, heq⟩ := exists_edit_script hvalid hfits hedit
    simp only [hscript] at hsize ⊢
    rw [hbytes] at hsize
    exact ⟨heq hsize, hvalid.of_edit? hedit hsize⟩

/-- A run on the script of an image is the run on the image. -/
theorem runEdits_script {image : Image} {view : View} {requests : List EditRequest} (hvalid : image.Valid view.encoding)
    (hfits : view.Fits image) (hsmall : (image.script view).StaysSmall requests) :
    (image.script view).runEdits requests = (image.runEdits view requests).script view ∧
      (image.runEdits view requests).Valid view.encoding := by
  induction requests generalizing image with
  | nil => exact ⟨rfl, hvalid⟩
  | cons request rest ih =>
    obtain ⟨hstep, hvalid'⟩ := applyEdit_script hvalid hfits hsmall.tail.size_lt
    have hrest := hsmall.tail
    rw [hstep] at hrest
    have hrun := ih hvalid' (hfits.of_retexted (retexted_applyEdit view image request)) hrest
    rw [Script.runEdits, List.foldl_cons, hstep]
    exact hrun

end Image

/-- A script with exact tables is that of an image, and its edited script is that of the edited image. -/
theorem Script.ExactTables.exists_runEdits {catalog : Catalog} {script : Script} (h : script.ExactTables catalog)
    (hstart : ∀ block ∈ script.blocks, block.start.toNat < sizeLimit) {requests : List EditRequest}
    (hsmall : script.StaysSmall requests) :
    ∃ (image : Image) (units : List (String × List Invocation)), image.Valid script.encoding ∧
      Runs image.body catalog image.entries (units.map (·.2)) ∧
      Named (image.texts.symbolTable script.encoding) image.entries units ∧
      script = image.script (image.freshView script.encoding units) ∧
      (image.runEdits (image.freshView script.encoding units) requests).Valid script.encoding ∧
      script.runEdits requests = (image.runEdits (image.freshView script.encoding units) requests).script
        (image.freshView script.encoding units) := by
  obtain ⟨image, units, hvalid, hruns, hnamed, hscript⟩ := h.exists_image hsmall.size_lt hstart
  rw [hscript] at hsmall
  obtain ⟨hrun, hedited⟩ := Image.runEdits_script hvalid (Image.fits_freshView hruns hnamed) hsmall
  rw [← hscript] at hrun
  exact ⟨image, units, hvalid, hruns, hnamed, hscript, hedited, hrun⟩

namespace Image

/-! ## Files that stay small -/

/-- An edit of an image makes its file longer by at most the cap. -/
theorem size_toBytes_of_edit? {image edited : Image} {view : View} {index cap : Nat} {text : String} {outcome : EditOutcome}
    (hfits : view.Fits image) (h : image.edit? view index text cap = some (edited, outcome)) :
    edited.toBytes.size ≤ image.toBytes.size + cap := by
  unfold edit? at h
  split at h
  · nomatch h
  next mark hmark =>
    split at h
    · cases h
      exact Nat.le_add_right ..
    · split at h
      · nomatch h
      next hterminated =>
        cases h
        have hsize := size_toBytes_retext (view.encoding.capLine text cap).bytes.toArray
          (hfits.symbolIndex_lt mark (List.mem_of_getElem? hmark)) (Nat.pos_of_ne_zero hterminated)
        have hcap := view.encoding.length_bytes_capLine_le text cap
        rw [← List.size_toArray] at hcap
        omega

/-- A request makes the files of an image and of its script longer by the same, which is at most the cap. -/
theorem size_applyEdit_script {image : Image} {view : View} (hvalid : image.Valid view.encoding) (hfits : view.Fits image)
    (request : EditRequest) :
    ((image.script view).applyEdit request).bytes.size = (image.applyEdit view request).toBytes.size ∧
      (image.applyEdit view request).toBytes.size ≤ image.toBytes.size + request.cap := by
  unfold Script.applyEdit applyEdit
  cases hedit : image.edit? view request.index request.text request.cap with
  | none =>
    obtain ⟨e, he⟩ := edit_script_of_none hvalid hfits hedit
    simp only [he]
    exact ⟨rfl, Nat.le_add_right ..⟩
  | some result =>
    obtain ⟨script, hscript, hbytes, -⟩ := exists_edit_script hvalid hfits hedit
    simp only [hscript]
    exact ⟨hbytes, size_toBytes_of_edit? hfits hedit⟩

/-- The file stays small while requests are served if it would with all the bytes that the requests may add. -/
theorem staysSmall_script {image : Image} {view : View} {requests : List EditRequest} (hvalid : image.Valid view.encoding)
    (hfits : view.Fits image) (hsize : image.toBytes.size + totalSize (requests.map (·.cap)) < sizeLimit) :
    (image.script view).StaysSmall requests := by
  induction requests generalizing image with
  | nil =>
    intro served hserved
    rw [List.prefix_nil.1 hserved]
    exact hsize
  | cons request rest ih =>
    have hcaps : totalSize ((request :: rest).map (·.cap)) = request.cap + totalSize (rest.map (·.cap)) := rfl
    rw [hcaps] at hsize
    obtain ⟨hbytes, hgrown⟩ := size_applyEdit_script hvalid hfits request
    obtain ⟨hscript, hvalid'⟩ := @applyEdit_script image view request hvalid hfits (by omega)
    have hrest := ih hvalid' (hfits.of_retexted (retexted_applyEdit view image request)) (by omega)
    intro served hserved
    cases served with
    | nil => exact Nat.lt_of_le_of_lt (Nat.le_add_right ..) hsize
    | cons first served =>
      obtain ⟨rfl, hthen⟩ := List.cons_prefix_cons.1 hserved
      have hsmall := hrest served hthen
      rw [← hscript] at hsmall
      exact hsmall

end Image

/-! ## Requests for the sample -/

/-- Requests for the sample: its first line grows by nine bytes, and a line is asked for that it does not have. -/
def Script.sampleRequests : List EditRequest :=
  [⟨0, "Hello there.", 256⟩, ⟨7, "", 256⟩]

theorem Image.fits_sample : View.sample.Fits sample := by
  rw [← freshView_sample]
  exact fits_freshView runs_sample named_sample

theorem Script.staysSmall_sample : sample.StaysSmall sampleRequests := by
  refine Image.staysSmall_script Image.valid_sample Image.fits_sample ?_
  rw [Image.size_toBytes]
  decide

end SceneScript
