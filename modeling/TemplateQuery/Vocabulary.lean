/-! IRIs of the RDF and XML Schema vocabularies. -/

set_option autoImplicit false

namespace TemplateQuery.Vocabulary

def langString : String := "http://www.w3.org/1999/02/22-rdf-syntax-ns#langString"

def xsdString : String := "http://www.w3.org/2001/XMLSchema#string"

def xsdBoolean : String := "http://www.w3.org/2001/XMLSchema#boolean"

def xsdInteger : String := "http://www.w3.org/2001/XMLSchema#integer"

def xsdDecimal : String := "http://www.w3.org/2001/XMLSchema#decimal"

def xsdFloat : String := "http://www.w3.org/2001/XMLSchema#float"

def xsdDouble : String := "http://www.w3.org/2001/XMLSchema#double"

def xsdDateTime : String := "http://www.w3.org/2001/XMLSchema#dateTime"

def xsdDayTimeDuration : String := "http://www.w3.org/2001/XMLSchema#dayTimeDuration"

def isNumericDatatype (iri : String) : Bool :=
  iri == xsdInteger || iri == xsdDecimal || iri == xsdFloat || iri == xsdDouble

end TemplateQuery.Vocabulary
