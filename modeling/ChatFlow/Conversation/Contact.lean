import ChatFlow.Schema.Scalar

/-! What is known about the person at the other end of a conversation. -/

namespace ChatFlow

/-- The identity of a contact, as far as it is known. -/
structure Contact where
  id : Option String
  name : Option String
  email : Option String
deriving Repr, DecidableEq

namespace Contact

open Schema

/-- A contact of whom nothing is known. -/
def unknown : Contact := ⟨none, none, none⟩

/-- The title of a contact in reports. -/
def title : String := "ContactInfo"

/-- Reads a contact from the entries of a dictionary. -/
def ofEntries (es : Entries) : Checked Contact :=
  Contact.mk <$> maybe es "contact_id" text
    <*> maybe es "contact_name" text
    <*> maybe es "contact_email" text

/-- Reads a contact. -/
def read : Value → Checked Contact :=
  record title ofEntries

/-- The entries of a contact. -/
def toEntries (c : Contact) : Entries :=
  [("contact_id", .ofText? c.id), ("contact_name", .ofText? c.name),
    ("contact_email", .ofText? c.email)]

/-- The document of a contact. -/
def toValue (c : Contact) : Value :=
  .dict c.toEntries

end Contact

end ChatFlow
