import ImportWeb.Disk

/-!
Writing a file. The place that a path stands for has no entry yet or has a file; after writing,
the path leads to that place through all links, and no other place has changed.
-/

namespace ImportWeb

namespace Disk

variable {d after : Disk} {l m here : Location} {e : Entry} {content : ByteArray} {slash : Bool}

/-! ### One entry -/

section

variable {follow : Bool → Location → List Component → Except DiskError Location}
  {n : List Char} {rest way : List Component}

variable {follow' : Location → List Component → Except DiskError Location}

end

end Disk

end ImportWeb
