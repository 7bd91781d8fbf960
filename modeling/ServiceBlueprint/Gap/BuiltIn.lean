import ServiceBlueprint.Gap.Rule

/-!
# The rules that come with the library

Every service is asked for the name of the applicant, an email address and a telephone number;
services for businesses also for the business, its registration and its address. Fields of the
types that need it are asked for a format, a length or a range.
-/

namespace ServiceBlueprint.Gap

def Fix.addField (name type : String) (validation : List (String × Value)) : Fix where
  action := .addField
  params := [(.text "fieldName", .text name), (.text "fieldType", .text type),
    (.text "validation", .map (validation.map fun e => (.text e.1, e.2)))]
  description := "Add \"" ++ name ++ "\" field"

def defaultPresenceRules : List PresenceRule :=
  [{ name := "applicant_name"
     description := "All services should collect applicant name"
     severity := .critical
     patterns := ["name", "applicant"]
     types := []
     fix := some (.addField "Applicant Full Name" "text"
       [("required", .bool true), ("minLength", .int 2)])
     message := "No applicant name field found"
     suggestion := "Add a field to collect applicant name" },
   { name := "contact_email"
     description := "Services should have contact email for notifications"
     severity := .warning
     patterns := ["email", "e-mail"]
     types := [.email]
     fix := some (.addField "Email Address" "email" [("required", .bool true)])
     message := "No contact email field found"
     suggestion := "Add an email field for notifications" },
   { name := "contact_phone"
     description := "Services should have a phone number for contact"
     severity := .suggestion
     patterns := ["phone", "mobile", "telephone"]
     types := [.phone]
     fix := some (.addField "Phone Number" "tel" [("required", .bool false)])
     message := "No contact phone field found"
     suggestion := "Add a phone field for contact" }]

def businessPresenceRules : List PresenceRule :=
  [{ name := "business_name"
     description := "Business registration requires company/business name"
     severity := .critical
     patterns := ["business", "company", "organization", "entity"]
     types := []
     fix := some (.addField "Business Name" "text"
       [("required", .bool true), ("minLength", .int 2)])
     message := "No business/company name field found"
     suggestion := "Add a field to collect business name" },
   { name := "registration_number"
     description := "Business registration should collect registration/tax number"
     severity := .warning
     patterns := ["registration", "tax", "tin", "ein"]
     types := []
     fix := some (.addField "Tax Identification Number" "text" [("required", .bool true)])
     message := "No registration or tax number field found"
     suggestion := "Add a field to collect the tax identification number" },
   { name := "business_address"
     description := "Business registration should collect business address"
     severity := .warning
     patterns := ["address", "location"]
     types := []
     fix := some (.addField "Business Address" "textarea" [("required", .bool true)])
     message := "No business address field found"
     suggestion := "Add a field to collect the business address" }]

def businessTypes : List String := ["business_registration", "business", "company"]

/-- The rules for a type of service, which is read in any letter case. -/
def presenceRulesFor (serviceType : Value) : Attempt (List PresenceRule) :=
  if serviceType.truthy then
    match serviceType with
    | .text s =>
      .ok (if businessTypes.contains (Text.lower s) then
        defaultPresenceRules ++ businessPresenceRules else defaultPresenceRules)
    | _ => .error .missingAttribute
  else .ok defaultPresenceRules

def defaultCoverageRules : List CoverageRule :=
  [{ name := "email_format"
     description := "Email fields should have email format validation"
     severity := .warning
     types := [.email]
     anyOf := ["pattern"]
     fixValidation := some [(.text "pattern", .text "^[^@]+@[^@]+\\.[^@]+$")]
     messageTemplate := "Email field \"\x7bname\x7d\" lacks email format validation"
     suggestion := "Add email pattern validation" },
   { name := "phone_format"
     description := "Phone fields should have pattern validation"
     severity := .suggestion
     types := [.phone]
     anyOf := ["pattern"]
     fixValidation := some [(.text "pattern", .text "^[+]?[0-9\\s\\-()]+$")]
     messageTemplate := "Phone field \"\x7bname\x7d\" lacks format validation"
     suggestion := "Add phone pattern validation" },
   { name := "text_length"
     description := "Text fields should have length constraints"
     severity := .suggestion
     types := [.text, .textArea]
     anyOf := ["minLength", "maxLength"]
     fixValidation := some [(.text "minLength", .int 1), (.text "maxLength", .int 255)]
     messageTemplate := "Text field \"\x7bname\x7d\" has no length constraints"
     suggestion := "Consider adding min/max length validation" },
   { name := "number_range"
     description := "Number fields should have range constraints"
     severity := .suggestion
     types := [.number]
     anyOf := ["min", "max"]
     fixValidation := some [(.text "min", .int 0)]
     messageTemplate := "Number field \"\x7bname\x7d\" has no range constraints"
     suggestion := "Consider adding min/max validation" }]

end ServiceBlueprint.Gap
