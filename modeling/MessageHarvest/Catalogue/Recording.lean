import MessageHarvest.Catalogue.Basic

/-!
Recording call sites in a catalogue: the message gets its default value, and the place is added to
its sources. A place recorded twice is listed twice.
-/

namespace MessageHarvest.Catalogue

def record (catalogue : Catalogue) (valuePrefix : Text) (found : MessageRecord) : Catalogue :=
  let valued := catalogue.set found.message (valuePrefix ++ found.message) found.domain
  let metadata := (valued.metadata? found.message found.domain).getD .empty
  valued.setMetadata found.message (metadata.addSource found.location) found.domain

def recordAll (catalogue : Catalogue) (valuePrefix : Text) (found : List MessageRecord) :
    Catalogue :=
  found.foldl (fun catalogue site => catalogue.record valuePrefix site) catalogue

end MessageHarvest.Catalogue
