import AbiDoc.Proofs.ContractOutcome

/-!
# What documentation depends on

The documentation of a contract depends on its documents only through the fragments that count: of a
function what the methods hold under its signature, of an event what the events hold under it or
else the methods, of an error the first of the fragments that the errors hold under it.  Contracts
with the same name and metadata, the same entries of each kind in the same order, and documents that
agree on the fragments of these entries and on what they say of the contract itself come out alike,
be it with a documentation or with a fault (`ofContract_eq_of_alike`).
-/

namespace AbiDoc

open Outcome Json

/-- The kinds of entries that are documented. -/
def documentedKinds : List Json := [functionKind, eventKind, errorKind]

/-! ## The fragments that count -/

namespace Fragment

/-- What a document holds under a signature in one of its buckets. -/
def filed (document : Json) (bucket signature : String) : Option Json :=
  match document with
  | .obj members =>
    match Assoc.find? bucket members with
    | some (.obj held) => Assoc.find? signature held
    | _ => none
  | _ => none

/-- The first fragment of an error, null when there is none.  Only lists hold fragments; anything
else that is given is asked for its first part and may have none to give. -/
def firstOf : Json → Outcome Json
  | .null | .arr [] => .ok .null
  | .arr (fragment :: _) => .ok fragment
  | held => if held.truthy then held.atKey (.int 0) else .ok .null

/-- The fragment that counts for an entry of a kind, null when there is none. -/
def effective (kind document : Json) (signature : String) : Outcome Json :=
  if kind = errorKind then firstOf ((filed document "errors" signature).getD .null)
  else if kind = eventKind then
    .ok (((filed document "events" signature).or (filed document "methods" signature)).getD .null)
  else .ok ((filed document "methods" signature).getD .null)

/-- A document is null or an object of which each bucket is absent, null or an object. -/
def IsBucketed : Json → Prop :=
  NullOr fun document => ∀ bucket ∈ ["methods", "events", "errors"], document.Allows bucket IsObject

theorem select_errorKind (held : Json) : select errorKind held = firstOf held := by
  rw [select, if_pos rfl]
  cases held with
  | null => rfl
  | arr items =>
      cases items with
      | nil => rfl
      | cons item rest => rfl
  | _ => rfl

theorem filed_of_null {members : Assoc String Json} {name : String}
    (h : (Json.obj members).field name = .ok .null) (signature : String) :
    filed (.obj members) name signature = none := by
  cases hmember : Assoc.find? name members with
  | none => rw [filed, hmember]
  | some value =>
      obtain rfl : value = .null := by simpa [field, hmember] using h
      rw [filed, hmember]

theorem filed_of_obj {members held : Assoc String Json} {name : String}
    (h : (Json.obj members).field name = .ok (.obj held)) (signature : String) :
    filed (.obj members) name signature = Assoc.find? signature held := by
  cases hmember : Assoc.find? name members with
  | none => simp [field, hmember] at h
  | some value =>
      obtain rfl : value = .obj held := by simpa [field, hmember] using h
      rw [filed, hmember]

/-- The buckets of an object are searched in order, and the first that holds the signature counts.
-/
theorem findIn_cons {members : Assoc String Json} {name : String}
    (h : (Json.obj members).Allows name IsObject) (kind : Json) (signature : String)
    (rest : List String) :
    findIn (.obj members) kind (.str signature) (name :: rest) =
      match filed (.obj members) name signature with
      | some held => select kind held
      | none => findIn (.obj members) kind (.str signature) rest := by
  obtain ⟨bucket, hbucket, hobject⟩ := h
  rw [findIn, hbucket, ok_bind]
  rcases hobject with rfl | ⟨held, rfl⟩
  · rw [filed_of_null hbucket]
    rfl
  · rw [filed_of_obj hbucket]
    -- An empty bucket is passed over like null, and it holds no signature either.
    cases held with
    | nil => rfl
    | cons member held =>
        rw [if_neg (by simp [truthy]), holds_obj]
        cases hmember : Assoc.find? signature (member :: held) with
        | none => rfl
        | some value =>
            rw [ok_bind, if_neg (by simp), atKey_obj hmember]
            rfl

theorem findIn_empty (kind : Json) (signature : String) (names : List String) :
    findIn (.obj []) kind (.str signature) names = .ok .null := by
  induction names with
  | nil => rfl
  | cons name rest ih =>
      rw [findIn_cons ⟨.null, rfl, Or.inl rfl⟩]
      exact ih

/-- An object is searched bucket by bucket; an empty one comes out alike without being searched. -/
theorem find_obj {kind : Json} {names : List String} (hnames : bucketsOf kind = .ok names)
    (members : Assoc String Json) (signature : String) :
    find (.obj members) kind (.str signature) =
      findIn (.obj members) kind (.str signature) names := by
  rw [find, hnames, ok_bind]
  cases members with
  | nil => exact (findIn_empty kind signature names).symm
  | cons member rest => rfl

/-- A search finds the fragment that counts. -/
theorem find_eq_effective {kind document : Json} (hkind : kind ∈ documentedKinds)
    (h : IsBucketed document) (signature : String) :
    find document kind (.str signature) = effective kind document signature := by
  simp only [documentedKinds, List.mem_cons, List.not_mem_nil, or_false] at hkind
  rcases h with rfl | hbuckets
  · rcases hkind with rfl | rfl | rfl
    · rfl
    · rfl
    · rfl
  · obtain ⟨members, rfl⟩ := isObject_of_field (hbuckets "methods" (by simp)).choose_spec.1
    have hmethods := findIn_cons (hbuckets "methods" (by simp))
    have hevents := findIn_cons (hbuckets "events" (by simp))
    have herrors := findIn_cons (hbuckets "errors" (by simp))
    rcases hkind with rfl | rfl | rfl
    · have hnames : bucketsOf functionKind = .ok ["methods"] := by decide
      rw [find_obj hnames, hmethods, effective, if_neg (by decide), if_neg (by decide)]
      cases filed (.obj members) "methods" signature with
      | none => rfl
      | some held => rfl
    · have hnames : bucketsOf eventKind = .ok ["events", "methods"] := by decide
      rw [find_obj hnames, hevents, hmethods, effective, if_neg (by decide), if_pos rfl]
      cases filed (.obj members) "events" signature with
      | none =>
          cases filed (.obj members) "methods" signature with
          | none => rfl
          | some held => rfl
      | some held => rfl
    · have hnames : bucketsOf errorKind = .ok ["errors"] := by decide
      rw [find_obj hnames, herrors, effective, if_pos rfl]
      cases filed (.obj members) "errors" signature with
      | none => rfl
      | some held => exact select_errorKind held

theorem find_orElse (document kind signature : Json) :
    find (document.orElse (.obj [])) kind signature = find document kind signature := by
  cases hgiven : document.truthy with
  | true => rw [orElse, if_pos hgiven]
  | false =>
      rw [orElse, hgiven, find, find, hgiven]
      rfl

end Fragment

theorem Json.given_orElse (key : String) (document : Json) :
    (document.orElse (.obj [])).given key = document.given key := by
  cases hgiven : document.truthy with
  | true => rw [orElse, if_pos hgiven]
  | false =>
      rw [orElse, hgiven, given, given, hgiven]
      rfl

/-! ## Contracts that come out alike -/

/-- The entries of each kind are the same, in the same order; how the kinds are mixed and what else
there is may differ. -/
def SameEntries (items others : List Json) : Prop :=
  ∀ kind ∈ documentedKinds, entriesAmong kind items = entriesAmong kind others

/-- Two documents agree on the fragments that count for the entries of an interface. -/
structure SameFragments (items : List Json) (document other : Json) : Prop where
  isBucketed : Fragment.IsBucketed document
  isBucketed_other : Fragment.IsBucketed other
  effective_eq : ∀ kind ∈ documentedKinds, ∀ entry ∈ entriesAmong kind items, ∀ signature,
    Entry.signature entry = .ok signature →
      Fragment.effective kind document signature = Fragment.effective kind other signature

/-- Two contracts agree on all that counts for their documentation. -/
structure CompiledContract.Alike (contract other : CompiledContract) : Prop where
  name : contract.name = other.name
  evm : contract.evm = other.evm
  interface : ∃ items others, contract.abi = .arr items ∧ other.abi = .arr others ∧
    (∀ item ∈ items, item.IsObject) ∧ (∀ item ∈ others, item.IsObject) ∧
      SameEntries items others ∧ SameFragments items contract.devdoc other.devdoc ∧
        SameFragments items contract.userdoc other.userdoc
  notice : contract.userdoc.given "notice" = other.userdoc.given "notice"
  details : contract.devdoc.given "details" = other.devdoc.given "details"
  author : contract.devdoc.given "author" = other.devdoc.given "author"
  title : contract.devdoc.given "title" = other.devdoc.given "title"

theorem SameFragments.find_eq {items : List Json} {document other kind entry : Json}
    {signature : String} (h : SameFragments items document other) (hkind : kind ∈ documentedKinds)
    (hentry : entry ∈ entriesAmong kind items)
    (hsignature : Entry.signature entry = .ok signature) :
    Fragment.find (document.orElse (.obj [])) kind (.str signature) =
      Fragment.find (other.orElse (.obj [])) kind (.str signature) := by
  rw [Fragment.find_orElse, Fragment.find_orElse, Fragment.find_eq_effective hkind h.isBucketed,
    Fragment.find_eq_effective hkind h.isBucketed_other]
  exact h.effective_eq kind hkind entry hentry signature hsignature

namespace Category

variable {items others : List Json} {devdoc devdoc' userdoc userdoc' kind : Json}

/-- An entry comes out alike with documents that agree on its fragment. -/
theorem document_congr {entry : Json} (hkind : kind ∈ documentedKinds)
    (hdev : SameFragments items devdoc devdoc') (huser : SameFragments items userdoc userdoc')
    (hentry : entry ∈ entriesAmong kind items) (identifiers : Json) :
    document kind (devdoc.orElse (.obj [])) (userdoc.orElse (.obj [])) identifiers entry =
      document kind (devdoc'.orElse (.obj [])) (userdoc'.orElse (.obj [])) identifiers entry := by
  rw [document, document]
  cases hsignature : Entry.signature entry with
  | error fault => rfl
  | ok signature =>
      rw [ok_bind, ok_bind, hdev.find_eq hkind hentry hsignature,
        huser.find_eq hkind hentry hsignature]

theorem entriesOf_objects (hkind : kind ∈ documentedKinds) (h : ∀ item ∈ items, item.IsObject) :
    entriesOf kind (.arr items) = .ok (entriesAmong kind items) := by
  have hfields : ∀ item ∈ items, ∃ type, item.field "type" = .ok type := by
    intro item hitem
    obtain ⟨members, rfl⟩ := h item hitem
    exact ⟨_, rfl⟩
  simp only [documentedKinds, List.mem_cons, List.not_mem_nil, or_false] at hkind
  rcases hkind with rfl | rfl | rfl
  · exact entriesOf_eq_ok_iff.mpr ⟨items, rfl, hfields, rfl⟩
  · exact entriesOf_eq_ok_iff.mpr ⟨items, rfl, hfields, rfl⟩
  · exact entriesOf_eq_ok_iff.mpr ⟨items, rfl, hfields, rfl⟩

/-- A category comes out alike for interfaces with the same entries of its kind. -/
theorem merge_congr (hkind : kind ∈ documentedKinds) (hitems : ∀ item ∈ items, item.IsObject)
    (hothers : ∀ item ∈ others, item.IsObject) (hentries : SameEntries items others)
    (hdev : SameFragments items devdoc devdoc') (huser : SameFragments items userdoc userdoc')
    (identifiers : Json) :
    merge kind (.arr items) (devdoc.orElse (.obj [])) (userdoc.orElse (.obj [])) identifiers =
      merge kind (.arr others) (devdoc'.orElse (.obj [])) (userdoc'.orElse (.obj []))
        identifiers := by
  have hdocumented := mapM_congr fun entry hentry =>
    document_congr hkind hdev huser hentry identifiers
  rw [merge, merge, entriesOf_objects hkind hitems, entriesOf_objects hkind hothers, ok_bind,
    ok_bind, ← hentries kind hkind, hdocumented]

end Category

/-- Contracts that agree on all that counts come out alike, to the last line that is logged. -/
theorem ofContract_eq_of_alike {contract other : CompiledContract} (h : contract.Alike other) :
    ContractDoc.ofContract contract = ContractDoc.ofContract other := by
  obtain ⟨items, others, habi, habi', hitems, hothers, hentries, hdev, huser⟩ := h.interface
  have hmerge : ∀ kind ∈ documentedKinds, ∀ identifiers,
      ContractDoc.mergeKind kind contract.abi (contract.devdoc.orElse (.obj []))
          (contract.userdoc.orElse (.obj [])) identifiers =
        ContractDoc.mergeKind kind other.abi (other.devdoc.orElse (.obj []))
          (other.userdoc.orElse (.obj [])) identifiers := by
    intro kind hkind identifiers
    rw [ContractDoc.mergeKind, ContractDoc.mergeKind, habi, habi',
      Category.merge_congr hkind hitems hothers hentries hdev huser]
  have hdescription : Description.gather other.name (contract.devdoc.orElse (.obj []))
      (contract.userdoc.orElse (.obj [])) =
      Description.gather other.name (other.devdoc.orElse (.obj []))
        (other.userdoc.orElse (.obj [])) := by
    simp only [Description.gather, given_orElse, h.notice, h.details]
  have hevents := hmerge eventKind (by simp [documentedKinds])
  have hfunctions := hmerge functionKind (by simp [documentedKinds])
  have herrors := hmerge errorKind (by simp [documentedKinds])
  simp only [ContractDoc.ofContract, given_orElse, hdescription, hevents, hfunctions, herrors,
    h.name, h.evm, h.author, h.title]

/-! ## An auction in two versions -/

def closeEntry : Json :=
  .obj [("type", .str "function"), ("name", .str "close"), ("stateMutability", .str "payable")]

def closedEntry : Json := .obj [("type", .str "event"), ("name", .str "Closed")]

def lateEntry : Json := .obj [("type", .str "error"), ("name", .str "Late")]

def noticeOf (text : String) : Json := .obj [("notice", .str text)]

/-- An auction of which the event is documented among the methods. -/
def auction : CompiledContract where
  source := .str "Auction.sol"
  name := .str "Auction"
  abi := .arr [.obj [("type", .str "constructor")], closeEntry, closedEntry, lateEntry]
  devdoc := .null
  userdoc := .obj [
    ("methods", .obj [("Closed()", noticeOf "It is over"), ("close()", noticeOf "Ends it")]),
    ("errors", .obj [("Late()", .arr [noticeOf "Too late"])])]
  evm := .obj [("methodIdentifiers", .obj [("close()", .str "43d726d6")])]

/-- The auction with its interface in another order and with documentation that does not count: of
functions that are gone, of later fragments of an error, of an event among the methods. -/
def reorderedAuction : CompiledContract where
  source := .str "Old.sol"
  name := .str "Auction"
  abi := .arr [closedEntry, lateEntry, .obj [("type", .str "fallback")], closeEntry]
  devdoc := .obj [("methods", .obj [("open()", noticeOf "Gone")]), ("events", .null)]
  userdoc := .obj [
    ("events", .obj [("Closed()", noticeOf "It is over")]),
    ("errors", .obj [("Late()", .arr [noticeOf "Too late", noticeOf "Gone"])]),
    ("methods", .obj [("Closed()", noticeOf "Gone"), ("close()", noticeOf "Ends it")])]
  evm := .obj [("methodIdentifiers", .obj [("close()", .str "43d726d6")])]

/-- Documents with buckets agree when they do on the three entries of the auction. -/
theorem sameFragments_auction {document other : Json} (h : Fragment.IsBucketed document)
    (h' : Fragment.IsBucketed other)
    (hclose : Fragment.effective functionKind document "close()" =
      Fragment.effective functionKind other "close()")
    (hclosed : Fragment.effective eventKind document "Closed()" =
      Fragment.effective eventKind other "Closed()")
    (hlate : Fragment.effective errorKind document "Late()" =
      Fragment.effective errorKind other "Late()") :
    SameFragments [.obj [("type", .str "constructor")], closeEntry, closedEntry, lateEntry]
      document other where
  isBucketed := h
  isBucketed_other := h'
  effective_eq := by
    intro kind hkind entry hentry signature hsignature
    simp only [documentedKinds, List.mem_cons, List.not_mem_nil, or_false] at hkind
    rcases hkind with rfl | rfl | rfl
    · obtain rfl : entry = closeEntry := List.mem_singleton.mp hentry
      have hname : Entry.signature closeEntry = .ok "close()" := by decide +kernel
      rwa [← Except.ok.inj (hname.symm.trans hsignature)]
    · obtain rfl : entry = closedEntry := List.mem_singleton.mp hentry
      have hname : Entry.signature closedEntry = .ok "Closed()" := by decide +kernel
      rwa [← Except.ok.inj (hname.symm.trans hsignature)]
    · obtain rfl : entry = lateEntry := List.mem_singleton.mp hentry
      have hname : Entry.signature lateEntry = .ok "Late()" := by decide +kernel
      rwa [← Except.ok.inj (hname.symm.trans hsignature)]

theorem auction_alike : auction.Alike reorderedAuction where
  name := rfl
  evm := rfl
  interface := by
    refine ⟨_, _, rfl, rfl, ?_, ?_, ?_, ?_, ?_⟩
    · simp only [List.forall_mem_cons]
      exact ⟨⟨_, rfl⟩, ⟨_, rfl⟩, ⟨_, rfl⟩, ⟨_, rfl⟩, by simp⟩
    · simp only [List.forall_mem_cons]
      exact ⟨⟨_, rfl⟩, ⟨_, rfl⟩, ⟨_, rfl⟩, ⟨_, rfl⟩, by simp⟩
    · simp only [SameEntries, documentedKinds, List.forall_mem_cons]
      exact ⟨rfl, rfl, rfl, by simp⟩
    · refine sameFragments_auction (Or.inl rfl) (Or.inr ?_) rfl rfl rfl
      simp only [List.forall_mem_cons]
      exact ⟨⟨_, rfl, Or.inr ⟨_, rfl⟩⟩, ⟨_, rfl, Or.inl rfl⟩, ⟨_, rfl, Or.inl rfl⟩, by simp⟩
    · refine sameFragments_auction (Or.inr ?_) (Or.inr ?_) rfl rfl rfl
      · simp only [List.forall_mem_cons]
        exact ⟨⟨_, rfl, Or.inr ⟨_, rfl⟩⟩, ⟨_, rfl, Or.inl rfl⟩, ⟨_, rfl, Or.inr ⟨_, rfl⟩⟩, by simp⟩
      · simp only [List.forall_mem_cons]
        exact ⟨⟨_, rfl, Or.inr ⟨_, rfl⟩⟩, ⟨_, rfl, Or.inr ⟨_, rfl⟩⟩, ⟨_, rfl, Or.inr ⟨_, rfl⟩⟩,
          by simp⟩
  notice := rfl
  details := rfl
  author := rfl
  title := rfl

/-- The notices of all entries that are documented. -/
def ContractDoc.notices (doc : ContractDoc) : List Json :=
  (doc.functions ++ doc.events ++ doc.errors).map fun entry => entry.2.notice

/-- The two versions of the auction are documented alike, with the notices that count. -/
theorem ofContract_eq_of_alike_auction :
    auction.Alike reorderedAuction ∧
      (ContractDoc.ofContract reorderedAuction).outcome.map ContractDoc.notices =
        .ok [.str "Ends it", .str "It is over", .str "Too late"] ∧
      ContractDoc.ofContract auction = ContractDoc.ofContract reorderedAuction :=
  ⟨auction_alike, rfl, ofContract_eq_of_alike auction_alike⟩

end AbiDoc
