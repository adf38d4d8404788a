import PoliteCrawl.Proofs.Crawl.Exploration

set_option autoImplicit false

namespace PoliteCrawl.Crawl

theorem digits_value (number : Nat) : digitsValue (Nat.toDigits 10 number) = number := by
  have same : digitsValue (Nat.toDigits 10 number) =
      Nat.ofDigitChars 10 (Nat.toDigits 10 number) 0 := by
    simp only [digitsValue, Nat.ofDigitChars, Nat.mul_comm]
  rw [same, Nat.ofDigitChars_ten_toDigits]

theorem read_depth (depth : Nat) (small : depth < Nat.pow 2 32) :
    readDepth? (toString depth) = some depth := by
  have letters : (toString depth).toList = Nat.toDigits 10 depth := by
    rw [Nat.toString_eq_ofList_toDigits, String.toList_ofList]
  have digits : (Nat.toDigits 10 depth).all Char.isDigit = true :=
    List.all_eq_true.mpr fun c member => Nat.isDigit_of_mem_toDigits (by decide) (by decide) member
  have written : (Nat.toDigits 10 depth).isEmpty = false := by
    simp [Nat.toDigits_ne_nil]
  simp only [readDepth?, letters]
  split
  · rename_i rest plus
    rw [plus] at digits
    simp at digits
  · rw [written, digits, digits_value, if_pos (by simpa using small)]

theorem child_depth (url : Url) (depth index : Nat) (small : depth < Nat.pow 2 32) :
    depthOf (child url depth index) = depth := by
  have told : (child url depth index).data.get? depthKey = some (toString depth) := by
    simp [child, Payload.get?]
  rw [depthOf, told, Option.bind_some, read_depth depth small, Option.getD_some]

-- The keys of the children differ by the last segment alone, which is the number of the child.
theorem child_key (url : Url) (rooted : url.Rooted) :
    ∃ stem : String, ∀ depth index, (child url depth index).uniqKey = stem ++ toString index := by
  obtain ⟨names, path⟩ := rooted.path
  obtain ⟨host, named, _, _⟩ := rooted.host
  have joined (above : List String) (last : String) :
      String.join ((above ++ [last]).map ("/" ++ ·)) =
        String.join (above.map ("/" ++ ·)) ++ "/" ++ last := by
    simp [String.join_append, String.join_cons, String.append_assoc]
  refine ⟨url.scheme ++ ":" ++ ("//" ++ url.credentialsText ++ host.text ++ url.portText) ++
    (String.join ((dropEmptyEnd names).map ("/" ++ ·)) ++ "/"), fun depth index => ?_⟩
  simp only [CrawlUri.uniqKey, Url.uniqKey, child, CrawlUri.new, childUrl, path, Url.withoutFragment,
    Url.text, Url.authorityText, Url.queryText, Url.fragmentText, Url.Path.text, Url.credentialsText,
    Url.portText, named, joined, String.append_assoc, String.append_empty]

theorem child_keys_distinct (url : Url) (rooted : url.Rooted) (depth count : Nat) :
    (((List.range count).map (child url depth)).map CrawlUri.uniqKey).Nodup := by
  obtain ⟨stem, key⟩ := child_key url rooted
  rw [List.map_map]
  refine List.pairwise_map.mpr (List.nodup_range.imp fun {first second} different same => different ?_)
  rw [Function.comp_apply, Function.comp_apply, key, key, String.append_right_inj,
    Nat.toString_eq_ofList_toDigits, Nat.toString_eq_ofList_toDigits, String.ofList_inj] at same
  rw [← digits_value first, same, digits_value]

section Links

variable {workers : WorkerConfig} {page : CrawlUri}

theorem discover_none (deep : workers.maxDepth ≤ depthOf page) : discoverLinks workers page = [] := by
  simp only [discoverLinks, if_pos deep]

theorem discover_some (above : depthOf page < workers.maxDepth) :
    discoverLinks workers page =
      (List.range workers.linksPerPage).map (child page.url (depthOf page + 1)) := by
  simp only [discoverLinks, if_neg (Nat.not_le_of_lt above)]

theorem link_depth (narrow : workers.maxDepth < Nat.pow 2 32) (link : CrawlUri)
    (member : link ∈ discoverLinks workers page) :
    depthOf page < workers.maxDepth ∧ depthOf link = depthOf page + 1 := by
  by_cases deep : workers.maxDepth ≤ depthOf page
  · rw [discover_none deep] at member
    cases member
  · have above := Nat.lt_of_not_le deep
    rw [discover_some above] at member
    obtain ⟨index, _, same⟩ := List.mem_map.mp member
    exact ⟨above, same ▸ child_depth page.url _ index (Nat.lt_of_le_of_lt above narrow)⟩

structure Fans (workers : WorkerConfig) (page : CrawlUri) : Prop where
  count : (discoverLinks workers page).length = workers.linksPerPage
  distinct : ((discoverLinks workers page).map CrawlUri.uniqKey).Nodup
  bare : ∀ link ∈ discoverLinks workers page, link.url.query = none ∧ link.url.fragment = none
  deeper : ∀ link ∈ discoverLinks workers page, depthOf link = depthOf page + 1
  home : ∀ link ∈ discoverLinks workers page,
    link.url.Rooted ∧ link.url.siteKey? = page.url.siteKey?

theorem page_fans (narrow : workers.maxDepth < Nat.pow 2 32) (rooted : page.url.Rooted)
    (above : depthOf page < workers.maxDepth) : Fans workers page where
  count := by
    rw [discover_some above, List.length_map, List.length_range]
  distinct := by
    rw [discover_some above]
    exact child_keys_distinct page.url rooted _ _
  bare link member := by
    rw [discover_some above] at member
    obtain ⟨index, _, same⟩ := List.mem_map.mp member
    exact same ▸ ⟨rfl, rfl⟩
  deeper link member := (link_depth narrow link member).2
  home link member := by
    rw [discover_some above] at member
    obtain ⟨index, _, same⟩ := List.mem_map.mp member
    exact same ▸ child_rooted page.url index rooted

end Links

end PoliteCrawl.Crawl
