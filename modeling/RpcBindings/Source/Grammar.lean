import RpcBindings.Source.Rule

/-!
# The grammar of Java

The rules of the language as data, from the file down to names and literals.

## Main definitions

* `Symbol` — the names of the rules.
* `grammar` — the rule of each name.
-/

namespace RpcBindings.Source

/-- The names of the grammar rules. -/
inductive Symbol
  -- the file and its declarations
  | topLevel | packageDeclaration | importDeclaration | classDeclaration | recordDeclaration
  | enumDeclaration | interfaceDeclaration | annotationTypeDeclaration | typeDeclaration
  | modifiers | mark | markArguments | markValue | typeParameters | superInterfaces | typeList
  | permits
  -- bodies and members
  | classBody | classMember | interfaceBody | interfaceMember | annotationTypeBody | enumBody
  | enumConstant | constructorBody | constructorCall | method | methodHeader | parameters
  | parameter | throwsClause | declarators | declarator | declaratorName | initializer
  | arrayInitializer
  -- statements
  | statement | block | localVariables | forStatement | tryStatement | catchClause | resources
  | switchBody | switchLabel | pattern | recordPattern
  -- expressions
  | expression | conditional | disjunction | conjunction | bitOr | bitXor | bitAnd | equality
  | relation | shift | sum | product | unary | unsigned | cast | lambda | suffixed | primary | atom
  | arguments | creation | parenthesized
  -- types and names
  | type | plainType | simpleType | primitive | namedType | genericName | arrayName
  | typeArguments | dimensions | name
  deriving DecidableEq, Repr

namespace Grammar

open Rule

/-- An opening brace. -/
def openBrace : Rule Symbol := symbol "\x7b"

/-- A closing brace. -/
def closeBrace : Rule Symbol := symbol "\x7d"

/-- A comma. -/
def comma : Rule Symbol := symbol ","

/-- A semicolon. -/
def semicolon : Rule Symbol := symbol ";"

/-- A rule between parentheses. -/
def parens (a : Rule Symbol) : Rule Symbol :=
  seqs [symbol "(", a, symbol ")"]

/-- A rule between braces. -/
def braces (a : Rule Symbol) : Rule Symbol :=
  seqs [openBrace, a, closeBrace]

/-- A word that is a node of the given kind. -/
def wordNode (w : String) (k : Kind) : Rule Symbol :=
  token (.wordNode w k)

/-- One of several operators. -/
def oneOf (texts : List String) : Rule Symbol :=
  alts (texts.map symbol)

/-- The modifiers that a declaration may have. -/
def optionalModifiers : Rule Symbol :=
  optional (ref .modifiers)

/-- A binary operation: operands of a tighter level, grouped to the left. -/
def binary (operand : Symbol) (operator : Rule Symbol) : Rule Symbol :=
  grow (ref operand)
    (onto .binaryExpression (some .left)
      (seq (label .operator operator) (label .right (ref operand))))

/-- A simple statement that starts with a word. -/
def wordStatement (k : Kind) (w : String) (a : Rule Symbol) : Rule Symbol :=
  node k (seqs [keyword w, a, semicolon])

/-- The name of a declaration. -/
def declaredName : Rule Symbol :=
  label .name identifier

/-- The rules of the file and its declarations. -/
def declarations : Symbol → Rule Symbol
  | .topLevel => alt (ref .statement) (ref .method)
  | .packageDeclaration =>
    node .packageDeclaration
      (seqs [many (ref .mark), keyword "package", ref .name, semicolon])
  | .importDeclaration =>
    node .importDeclaration
      (seqs [keyword "import", optional (keyword "static"), ref .name,
        optional (seq (symbol ".") (token (.symbolNode "*" .asterisk))), semicolon])
  | .classDeclaration =>
    node .classDeclaration
      (seqs [optionalModifiers, keyword "class", declaredName,
        optional (label .typeParameters (ref .typeParameters)),
        optional (label .superclass (node .superclass (seq (keyword "extends") (ref .type)))),
        optional (label .interfaces (ref .superInterfaces)),
        optional (label .permits (ref .permits)), label .body (ref .classBody)])
  | .recordDeclaration =>
    node .recordDeclaration
      (seqs [optionalModifiers, keyword "record", declaredName,
        optional (label .typeParameters (ref .typeParameters)),
        label .parameters (ref .parameters), optional (label .interfaces (ref .superInterfaces)),
        label .body (ref .classBody)])
  | .enumDeclaration =>
    node .enumDeclaration
      (seqs [optionalModifiers, keyword "enum", declaredName,
        optional (label .interfaces (ref .superInterfaces)), label .body (ref .enumBody)])
  | .interfaceDeclaration =>
    node .interfaceDeclaration
      (seqs [optionalModifiers, keyword "interface", declaredName,
        optional (label .typeParameters (ref .typeParameters)),
        optional (node .extendsInterfaces (seq (keyword "extends") (ref .typeList))),
        optional (ref .permits), label .body (ref .interfaceBody)])
  | .annotationTypeDeclaration =>
    node .annotationTypeDeclaration
      (seqs [optionalModifiers, symbol "@interface", declaredName,
        label .body (ref .annotationTypeBody)])
  | .typeDeclaration =>
    alts [ref .classDeclaration, ref .recordDeclaration, ref .interfaceDeclaration,
      ref .annotationTypeDeclaration, ref .enumDeclaration]
  | .modifiers =>
    node .modifiers <| many1 <| alts
      [ref .mark, keyword "public", keyword "protected", keyword "private", keyword "abstract",
        keyword "static", keyword "final", keyword "strictfp", keyword "default",
        keyword "synchronized", keyword "native", keyword "transient", keyword "volatile",
        seqs [keyword "non", symbol "-", keyword "sealed"], keyword "sealed"]
  | .mark =>
    let head := seq (symbol "@") (label .name (ref .name))
    alt (node .fullAnnotated (seq head (label .arguments (ref .markArguments))))
      (node .bareAnnotated head)
  | .markArguments =>
    let pair := node .elementValuePair
      (seqs [label .key identifier, symbol "=", label .value (ref .markValue)])
    node .annotationArgumentList
      (alts [parens (list1 comma pair), parens (ref .markValue), parens done])
  | .markValue =>
    alts [node .elementValueArrayInitializer
        (braces (seq (list comma (ref .markValue)) (optional comma))),
      ref .mark, ref .conditional]
  | .typeParameters =>
    let bound := node .typeBound
      (seq (keyword "extends") (list1 (symbol "&") (ref .type)))
    let parameter := node .typeParameter
      (seqs [many (ref .mark), token (.identifier .typeIdentifier), optional bound])
    node .typeParameters (seqs [symbol "<", list1 comma parameter, symbol ">"])
  | .superInterfaces => node .superInterfaces (seq (keyword "implements") (ref .typeList))
  | .typeList => node .typeList (list1 comma (ref .type))
  | .permits => node .permits (seq (keyword "permits") (ref .typeList))
  | _ => done

/-- The rules of bodies and their members. -/
def members : Symbol → Rule Symbol
  | .classBody => node .classBody (braces (many (ref .classMember)))
  | .classMember =>
    let constructor := node .constructorDeclaration
      (seqs [optionalModifiers, optional (label .typeParameters (ref .typeParameters)),
        declaredName, label .parameters (ref .parameters), optional (ref .throwsClause),
        label .body (ref .constructorBody)])
    let compactConstructor := node .compactConstructorDeclaration
      (seqs [optionalModifiers, declaredName, label .body (ref .block)])
    let field := node .fieldDeclaration
      (seqs [optionalModifiers, label .typeOf (ref .plainType), ref .declarators, semicolon])
    alts [semicolon, ref .block, node .staticInitializer (seq (keyword "static") (ref .block)),
      ref .typeDeclaration, constructor, compactConstructor, ref .method, field]
  | .interfaceBody => node .interfaceBody (braces (many (ref .interfaceMember)))
  | .interfaceMember =>
    let constant := node .constantDeclaration
      (seqs [optionalModifiers, label .typeOf (ref .plainType), ref .declarators, semicolon])
    alts [semicolon, ref .typeDeclaration, ref .method, constant]
  | .annotationTypeBody =>
    let element := node .annotationTypeElementDeclaration
      (seqs [optionalModifiers, label .typeOf (ref .plainType), declaredName, symbol "(",
        symbol ")", optional (label .dimensions (ref .dimensions)),
        optional (seq (keyword "default") (label .value (ref .markValue))), semicolon])
    node .annotationTypeBody (braces (many (alt element (ref .interfaceMember))))
  | .enumBody =>
    let later := node .enumBodyDeclarations (seq semicolon (many (ref .classMember)))
    node .enumBody
      (braces (seqs [list comma (ref .enumConstant), optional comma, optional later]))
  | .enumConstant =>
    node .enumConstant
      (seqs [optionalModifiers, declaredName, optional (label .arguments (ref .arguments)),
        optional (label .body (ref .classBody))])
  | .constructorBody =>
    node .constructorBody
      (braces (seq (optional (ref .constructorCall)) (many (ref .statement))))
  | .constructorCall =>
    let target := alt (wordNode "this" .thisReference) (wordNode "super" .superReference)
    let plain := seq (optional (label .typeArguments (ref .typeArguments)))
      (label .constructor target)
    let qualified := seqs [label .object (ref .name), symbol ".",
      optional (label .typeArguments (ref .typeArguments)),
      label .constructor (wordNode "super" .superReference)]
    node .explicitConstructorInvocation
      (seqs [alt plain qualified, label .arguments (ref .arguments), semicolon])
  | .method =>
    node .methodDeclaration
      (seqs [optionalModifiers, ref .methodHeader, alt (label .body (ref .block)) semicolon])
  | .methodHeader =>
    seqs [optional (seq (label .typeParameters (ref .typeParameters)) (many (ref .mark))),
      label .typeOf (ref .plainType), declaredName, label .parameters (ref .parameters),
      optional (label .dimensions (ref .dimensions)), optional (ref .throwsClause)]
  | .parameters =>
    let receiver := node .receiverParameter
      (seqs [many (ref .mark), ref .plainType, many (seq identifier (symbol ".")),
        wordNode "this" .thisReference])
    let all := list1 comma (ref .parameter)
    node .formalParameters
      (alts [parens done, parens (seq receiver (optional (seq comma all))), parens all])
  | .parameter =>
    alt
      (node .formalParameter
        (seqs [optionalModifiers, label .typeOf (ref .plainType), ref .declaratorName]))
      (node .spreadParameter
        (seqs [optionalModifiers, ref .plainType, symbol "...", many (ref .mark),
          ref .declarator]))
  | .throwsClause => node .throwsClause (seq (keyword "throws") (list1 comma (ref .type)))
  | .declarators => list1 comma (label .declarator (ref .declarator))
  | .declarator =>
    node .variableDeclarator
      (seq (ref .declaratorName)
        (optional (seq (symbol "=") (label .value (ref .initializer)))))
  | .declaratorName => seq declaredName (optional (label .dimensions (ref .dimensions)))
  | .initializer => alt (ref .arrayInitializer) (ref .expression)
  | .arrayInitializer =>
    node .arrayInitializer (braces (seq (list comma (ref .initializer)) (optional comma)))
  | _ => done

/-- The rules of statements. -/
def statements : Symbol → Rule Symbol
  | .statement =>
    let labeled := node .labeledStatement (seqs [identifier, symbol ":", ref .statement])
    let ifElse := node .ifStatement
      (seqs [keyword "if", label .condition (ref .parenthesized),
        label .consequence (ref .statement),
        optional (seq (keyword "else") (label .alternative (ref .statement)))])
    let whileLoop := node .whileStatement
      (seqs [keyword "while", label .condition (ref .parenthesized),
        label .body (ref .statement)])
    let doLoop := node .doStatement
      (seqs [keyword "do", label .body (ref .statement), keyword "while",
        label .condition (ref .parenthesized), semicolon])
    let synchronized := node .synchronizedStatement
      (seqs [keyword "synchronized", ref .parenthesized, label .body (ref .block)])
    let assertion := wordStatement .assertStatement "assert"
      (seq (ref .expression) (optional (seq (symbol ":") (ref .expression))))
    let switch := node .switchExpression
      (seqs [keyword "switch", label .condition (ref .parenthesized),
        label .body (ref .switchBody)])
    alts [ref .block, semicolon, labeled, ifElse, whileLoop, ref .forStatement, assertion, doLoop,
      wordStatement .breakStatement "break" (optional identifier),
      wordStatement .continueStatement "continue" (optional identifier),
      wordStatement .returnStatement "return" (optional (ref .expression)),
      wordStatement .throwStatement "throw" (ref .expression),
      wordStatement .yieldStatement "yield" (ref .expression),
      synchronized, switch, ref .tryStatement, ref .importDeclaration, ref .typeDeclaration,
      ref .packageDeclaration, ref .localVariables,
      node .expressionStatement (seq (ref .expression) semicolon)]
  | .block => node .block (braces (many (ref .statement)))
  | .localVariables =>
    node .localVariableDeclaration
      (seqs [optionalModifiers, label .typeOf (ref .plainType), ref .declarators, semicolon])
  | .forStatement =>
    let starts := alt (label .initial (ref .localVariables))
      (seq (list comma (label .initial (ref .expression))) semicolon)
    alt
      (node .enhancedForStatement
        (seqs [keyword "for", symbol "(", optionalModifiers, label .typeOf (ref .plainType),
          ref .declaratorName, symbol ":", label .value (ref .expression), symbol ")",
          label .body (ref .statement)]))
      (node .forStatement
        (seqs [keyword "for", symbol "(", starts,
          optional (label .condition (ref .expression)), semicolon,
          list comma (label .update (ref .expression)), symbol ")",
          label .body (ref .statement)]))
  | .tryStatement =>
    let finish := node .finallyClause (seq (keyword "finally") (ref .block))
    alt
      (node .tryWithResourcesStatement
        (seqs [keyword "try", label .resources (ref .resources), label .body (ref .block),
          many (ref .catchClause), optional finish]))
      (node .tryStatement
        (seqs [keyword "try", label .body (ref .block),
          alt (seq (many1 (ref .catchClause)) (optional finish)) finish]))
  | .catchClause =>
    let caught := node .catchType (list1 (symbol "|") (ref .plainType))
    node .catchClause
      (seqs [keyword "catch",
        parens (node .catchFormalParameter
          (seqs [optionalModifiers, caught, ref .declaratorName])),
        label .body (ref .block)])
  | .resources =>
    let fresh := seqs [optionalModifiers, label .typeOf (ref .plainType), ref .declaratorName,
      symbol "=", label .value (ref .expression)]
    let resource := node .resource (alt fresh (ref .primary))
    node .resourceSpecification (parens (seq (list1 semicolon resource) (optional semicolon)))
  | .switchBody =>
    let group := node .switchBlockStatementGroup
      (seq (many1 (seq (ref .switchLabel) (symbol ":"))) (many (ref .statement)))
    let result := alts [ref .block, wordStatement .throwStatement "throw" (ref .expression),
      node .expressionStatement (seq (ref .expression) semicolon)]
    let rule := node .switchRule (seqs [ref .switchLabel, symbol "->", result])
    node .switchBlock (alts [braces (many1 rule), braces (many group)])
  | .switchLabel =>
    let guarded := optional (node .guard (seq (keyword "when") (ref .conditional)))
    let values := list1 comma (alt (keyword "default") (ref .conditional))
    node .switchLabel
      (alts [seqs [keyword "case", node .patternNode (ref .pattern), guarded],
        seq (keyword "case") (seq values guarded), keyword "default"])
  | .pattern =>
    alt (ref .recordPattern) (node .typePattern (seq (ref .plainType) identifier))
  | .recordPattern =>
    let component := node .recordPatternComponent (seq (ref .plainType) identifier)
    node .recordPattern
      (seq (alt (ref .genericName) identifier)
        (node .recordPatternBody (parens (list comma (alt (ref .recordPattern) component)))))
  | _ => done

/-- The rules of expressions. -/
def expressions : Symbol → Rule Symbol
  | .expression =>
    let operator := alts [oneOf ["=", "+=", "-=", "*=", "/=", "&=", "|=", "^=", "%=", "<<="],
      token (.joined [">", ">", ">="]), token (.joined [">", ">="])]
    alt (ref .lambda)
      (grow (ref .conditional)
        (given [.identifier, .fieldAccess, .arrayAccess]
          (onto .assignmentExpression (some .left)
            (seq (label .operator operator) (label .right (ref .expression))))))
  | .conditional =>
    grow (ref .disjunction)
      (onto .ternaryExpression (some .condition)
        (seqs [symbol "?", label .consequence (ref .expression), symbol ":",
          label .alternative (alt (ref .lambda) (ref .conditional))]))
  | .disjunction => binary .conjunction (symbol "||")
  | .conjunction => binary .bitOr (symbol "&&")
  | .bitOr => binary .bitXor (symbol "|")
  | .bitXor => binary .bitAnd (symbol "^")
  | .bitAnd => binary .equality (symbol "&")
  | .equality => binary .relation (oneOf ["==", "!="])
  | .relation =>
    let tested := alt (label .pattern (ref .recordPattern))
      (seq (label .right (ref .type)) (optional declaredName))
    grow (ref .shift)
      (alt
        (onto .instanceofExpression (some .left)
          (seqs [keyword "instanceof", optional (keyword "final"), tested]))
        (onto .binaryExpression (some .left)
          (seq (label .operator (oneOf ["<=", ">=", "<", ">"])) (label .right (ref .shift)))))
  | .shift =>
    binary .sum
      (alts [symbol "<<", token (.joined [">", ">", ">"]), token (.joined [">", ">"])])
  | .sum => binary .product (oneOf ["+", "-"])
  | .product => binary .unary (oneOf ["*", "/", "%"])
  | .unary =>
    alts [node .updateExpression (seq (oneOf ["++", "--"]) (ref .unary)),
      node .unaryExpression
        (seq (label .operator (oneOf ["+", "-"])) (label .operand (ref .unary))),
      ref .unsigned]
  | .unsigned =>
    alts [node .unaryExpression
        (seq (label .operator (oneOf ["!", "~"])) (label .operand (ref .unary))),
      ref .cast, ref .suffixed]
  | .cast =>
    alt
      (node .castExpression
        (seqs [symbol "(", label .typeOf (ref .primitive), symbol ")",
          label .value (ref .unary)]))
      (node .castExpression
        (seqs [symbol "(", list1 (symbol "&") (label .typeOf (ref .type)), symbol ")",
          label .value (alt (ref .lambda) (ref .unsigned))]))
  | .lambda =>
    let inferred := node .inferredParameters (parens (list1 comma identifier))
    let head := alts [identifier, inferred, ref .parameters]
    node .lambdaExpression
      (seqs [label .parameters head, symbol "->",
        label .body (alt (ref .block) (ref .expression))])
  | .suffixed =>
    grow (ref .primary) (onto .updateExpression none (oneOf ["++", "--"]))
  | .primary =>
    let call := seqs [symbol ".", optional (label .typeArguments (ref .typeArguments)),
      label .name identifier, label .arguments (ref .arguments)]
    let superCall := seqs [symbol ".", wordNode "super" .superReference, symbol ".",
      optional (label .typeArguments (ref .typeArguments)), label .name identifier,
      label .arguments (ref .arguments)]
    let access := seq (symbol ".")
      (label .fieldName (alt identifier (wordNode "this" .thisReference)))
    let superAccess := seqs [symbol ".", wordNode "super" .superReference, symbol ".",
      label .fieldName identifier]
    let method := seqs [symbol "::", optional (ref .typeArguments),
      alt (keyword "new") identifier]
    grow (ref .atom) <| alts
      [onto .methodInvocation (some .object) call,
        onto .methodInvocation (some .object) superCall,
        onto .objectCreationExpression none (seq (symbol ".") (ref .creation)),
        onto .templateExpression (some .templateProcessor)
          (seq (symbol ".") (label .templateArgument (token .string))),
        onto .fieldAccess (some .object) superAccess,
        onto .fieldAccess (some .object) access,
        onto .arrayAccess (some .array)
          (seqs [symbol "[", label .index (ref .expression), symbol "]"]),
        onto .methodReference none method]
  | .atom =>
    let call := node .methodInvocation
      (seq (label .name identifier) (label .arguments (ref .arguments)))
    let classLiteral := node .classLiteral
      (seqs [ref .plainType, symbol ".", keyword "class"])
    let typeReference := node .methodReference
      (seqs [alts [ref .arrayName, ref .genericName, ref .primitive], symbol "::",
        optional (ref .typeArguments), alt (keyword "new") identifier])
    let arrayCreation := node .arrayCreationExpression
      (seqs [keyword "new", many (ref .mark), label .typeOf (ref .simpleType),
        alt
          (seq (many1 (label .dimensions (node .dimensionsExpr
              (seqs [many (ref .mark), symbol "[", ref .expression, symbol "]"]))))
            (optional (label .dimensions (ref .dimensions))))
          (seq (label .dimensions (ref .dimensions))
            (label .value (ref .arrayInitializer)))])
    let switch := node .switchExpression
      (seqs [keyword "switch", label .condition (ref .parenthesized),
        label .body (ref .switchBody)])
    alts [token .literal, wordNode "true" .trueLiteral, wordNode "false" .falseLiteral,
      wordNode "null" .nullLiteral, classLiteral, wordNode "this" .thisReference,
      wordNode "super" .superReference, ref .parenthesized, arrayCreation,
      node .objectCreationExpression (ref .creation), switch, call, typeReference, identifier]
  | .arguments => node .argumentList (parens (list comma (ref .expression)))
  | .creation =>
    seqs [keyword "new", many (ref .mark), optional (label .typeArguments (ref .typeArguments)),
      many (ref .mark), label .typeOf (ref .simpleType), label .arguments (ref .arguments),
      optional (ref .classBody)]
  | .parenthesized => node .parenthesizedExpression (parens (ref .expression))
  | _ => done

/-- The rules of types and names. -/
def types : Symbol → Rule Symbol
  | .type => alt (node .annotatedType (seq (many1 (ref .mark)) (ref .plainType))) (ref .plainType)
  | .plainType =>
    grow (ref .simpleType)
      (onto .arrayType (some .element) (label .dimensions (ref .dimensions)))
  | .simpleType =>
    alts [ref .namedType, ref .primitive, wordNode "void" .voidType]
  | .primitive =>
    alts [wordNode "byte" .integralType, wordNode "short" .integralType,
      wordNode "int" .integralType, wordNode "long" .integralType,
      wordNode "char" .integralType, wordNode "float" .floatingPointType,
      wordNode "double" .floatingPointType, wordNode "boolean" .booleanType]
  | .namedType =>
    let simple := token (.identifier .typeIdentifier)
    grow simple
      (alt (onto .genericType none (ref .typeArguments))
        (onto .scopedTypeIdentifier none (seqs [symbol ".", many (ref .mark), simple])))
  | .genericName =>
    let simple := token (.identifier .typeIdentifier)
    after
      (grow simple (onto .scopedTypeIdentifier none (seqs [symbol ".", many (ref .mark), simple])))
      (onto .genericType none (ref .typeArguments))
  | .arrayName =>
    after (ref .simpleType) (onto .arrayType (some .element) (label .dimensions (ref .dimensions)))
  | .typeArguments =>
    let bound := alt (seq (keyword "extends") (ref .type))
      (seq (wordNode "super" .superReference) (ref .type))
    let wildcard := node .wildcard (seqs [many (ref .mark), symbol "?", optional bound])
    node .typeArguments
      (seqs [symbol "<", list comma (alt wildcard (ref .type)), symbol ">"])
  | .dimensions =>
    node .dimensions (many1 (seqs [many (ref .mark), symbol "[", symbol "]"]))
  | .name =>
    grow identifier
      (onto .scopedIdentifier (some .scope) (seq (symbol ".") (label .name identifier)))
  | _ => done

end Grammar

open Grammar in
/-- The rule of each name. -/
def grammar (s : Symbol) : Rule Symbol :=
  match s with
  | .topLevel | .packageDeclaration | .importDeclaration | .classDeclaration
  | .recordDeclaration | .enumDeclaration | .interfaceDeclaration | .annotationTypeDeclaration
  | .typeDeclaration | .modifiers | .mark | .markArguments | .markValue | .typeParameters
  | .superInterfaces | .typeList | .permits => declarations s
  | .classBody | .classMember | .interfaceBody | .interfaceMember | .annotationTypeBody
  | .enumBody | .enumConstant | .constructorBody | .constructorCall | .method | .methodHeader
  | .parameters | .parameter | .throwsClause | .declarators | .declarator | .declaratorName
  | .initializer | .arrayInitializer => members s
  | .statement | .block | .localVariables | .forStatement | .tryStatement | .catchClause
  | .resources | .switchBody | .switchLabel | .pattern | .recordPattern => statements s
  | .expression | .conditional | .disjunction | .conjunction | .bitOr | .bitXor | .bitAnd
  | .equality | .relation | .shift | .sum | .product | .unary | .unsigned | .cast | .lambda
  | .suffixed | .primary | .atom | .arguments | .creation | .parenthesized => expressions s
  | .type | .plainType | .simpleType | .primitive | .namedType | .genericName | .arrayName
  | .typeArguments | .dimensions | .name => types s

end RpcBindings.Source
