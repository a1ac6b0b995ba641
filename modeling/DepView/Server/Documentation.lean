import DepView.Json.Writer

/-!
The documentation of the server: a description of its routes in OpenAPI, and the pages that show it.
-/

namespace DepView.Server.Documentation

/-- The page that lets a reader try the routes. -/
def explorer : String :=
  "
    <!DOCTYPE html>
    <html>
    <head>
    <meta name=\"viewport\" content=\"width=device-width, initial-scale=1.0\">
    <link type=\"text/css\" rel=\"stylesheet\" href=\"https://cdn.jsdelivr.net/npm/swagger-ui-dist@5/swagger-ui.css\">
    <link rel=\"shortcut icon\" href=\"https://fastapi.tiangolo.com/img/favicon.png\">
    <title>dtsviz - Swagger UI</title>
    </head>
    <body>
    <div id=\"swagger-ui\">
    </div>
    <script src=\"https://cdn.jsdelivr.net/npm/swagger-ui-dist@5/swagger-ui-bundle.js\"></script>
    <!-- `SwaggerUIBundle` is now available on the page -->
    <script>
    const ui = SwaggerUIBundle(\x7b
        url: '/openapi.json',
    \"dom_id\": \"#swagger-ui\",
\"layout\": \"BaseLayout\",
\"deepLinking\": true,
\"showExtensions\": true,
\"showCommonExtensions\": true,
oauth2RedirectUrl: window.location.origin + '/docs/oauth2-redirect',
    presets: [
        SwaggerUIBundle.presets.apis,
        SwaggerUIBundle.SwaggerUIStandalonePreset
        ],
    \x7d)
    </script>
    </body>
    </html>
    "

/-- The page that a log-in of the explorer comes back to. -/
def loginReturn : String :=
  "
    <!doctype html>
    <html lang=\"en-US\">
    <head>
        <title>Swagger UI: OAuth2 Redirect</title>
    </head>
    <body>
    <script>
        'use strict';
        function run () \x7b
            var oauth2 = window.opener.swaggerUIRedirectOauth2;
            var sentState = oauth2.state;
            var redirectUrl = oauth2.redirectUrl;
            var isValid, qp, arr;

            if (/code|token|error/.test(window.location.hash)) \x7b
                qp = window.location.hash.substring(1).replace('?', '&');
            \x7d else \x7b
                qp = location.search.substring(1);
            \x7d

            arr = qp.split(\"&\");
            arr.forEach(function (v,i,_arr) \x7b _arr[i] = '\"' + v.replace('=', '\":\"') + '\"';\x7d);
            qp = qp ? JSON.parse('\x7b' + arr.join() + '\x7d',
                    function (key, value) \x7b
                        return key === \"\" ? value : decodeURIComponent(value);
                    \x7d
            ) : \x7b\x7d;

            isValid = qp.state === sentState;

            if ((
              oauth2.auth.schema.get(\"flow\") === \"accessCode\" ||
              oauth2.auth.schema.get(\"flow\") === \"authorizationCode\" ||
              oauth2.auth.schema.get(\"flow\") === \"authorization_code\"
            ) && !oauth2.auth.code) \x7b
                if (!isValid) \x7b
                    oauth2.errCb(\x7b
                        authId: oauth2.auth.name,
                        source: \"auth\",
                        level: \"warning\",
                        message: \"Authorization may be unsafe, passed state was changed in server. The passed state wasn't returned from auth server.\"
                    \x7d);
                \x7d

                if (qp.code) \x7b
                    delete oauth2.state;
                    oauth2.auth.code = qp.code;
                    oauth2.callback(\x7bauth: oauth2.auth, redirectUrl: redirectUrl\x7d);
                \x7d else \x7b
                    let oauthErrorMsg;
                    if (qp.error) \x7b
                        oauthErrorMsg = \"[\"+qp.error+\"]: \" +
                            (qp.error_description ? qp.error_description+ \". \" : \"no accessCode received from the server. \") +
                            (qp.error_uri ? \"More info: \"+qp.error_uri : \"\");
                    \x7d

                    oauth2.errCb(\x7b
                        authId: oauth2.auth.name,
                        source: \"auth\",
                        level: \"error\",
                        message: oauthErrorMsg || \"[Authorization failed]: no accessCode received from the server.\"
                    \x7d);
                \x7d
            \x7d else \x7b
                oauth2.callback(\x7bauth: oauth2.auth, token: qp, isValid: isValid, redirectUrl: redirectUrl\x7d);
            \x7d
            window.close();
        \x7d

        if (document.readyState !== 'loading') \x7b
            run();
        \x7d else \x7b
            document.addEventListener('DOMContentLoaded', function () \x7b
                run();
            \x7d);
        \x7d
    </script>
    </body>
    </html>
        "

/-- The page that shows the description for reading. -/
def reference : String :=
  "
    <!DOCTYPE html>
    <html>
    <head>
    <title>dtsviz - ReDoc</title>
    <!-- needed for adaptive design -->
    <meta charset=\"utf-8\"/>
    <meta name=\"viewport\" content=\"width=device-width, initial-scale=1\">
    
    <link href=\"https://fonts.googleapis.com/css?family=Montserrat:300,400,700|Roboto:300,400,700\" rel=\"stylesheet\">
    
    <link rel=\"shortcut icon\" href=\"https://fastapi.tiangolo.com/img/favicon.png\">
    <!--
    ReDoc doesn't change outer page styles
    -->
    <style>
      body \x7b
        margin: 0;
        padding: 0;
      \x7d
    </style>
    </head>
    <body>
    <noscript>
        ReDoc requires Javascript to function. Please enable it to browse the documentation.
    </noscript>
    <redoc spec-url=\"/openapi.json\"></redoc>
    <script src=\"https://cdn.jsdelivr.net/npm/redoc@2/bundles/redoc.standalone.js\"> </script>
    </body>
    </html>
    "

/-- A schema of one type. -/
def typed (type : String) (more : List (String × Json)) : Json :=
  .record (("type", .ofString type) :: more)

def referTo (schema : String) : Json :=
  .record [("$ref", .ofString ("#/components/schemas/" ++ schema))]

/-- What is told about a reply with a body. -/
def replyBody (status description media : String) (schema : Json) : String × Json :=
  (status, .record [("description", .ofString description),
    ("content", .record [(media, .record [("schema", schema)])])])

def success (media : String) (schema : Json) : String × Json :=
  replyBody "200" "Successful Response" media schema

def invalid : String × Json :=
  replyBody "422" "Validation Error" "application/json" (referTo "HTTPValidationError")

/-- A field of a query. -/
def field (name : String) (required : Bool) (schema : Json) : Json :=
  .record [("name", .ofString name), ("in", .ofString "query"), ("required", .bool required),
    ("schema", schema)]

/-- What is told about a method of a route. -/
def operation (summary id : String) (fields : List Json) (replies : List (String × Json)) : Json :=
  .record ([("summary", .ofString summary), ("operationId", .ofString id)] ++
    (if fields.isEmpty then [] else [("parameters", .arr fields)]) ++
    [("responses", .record replies)])

def anything : Json := .record []

def anyJson : String × Json :=
  success "application/json" anything

def titled (title : String) : String × Json :=
  ("title", .ofString title)

def validationSchemas : Json :=
  .record [
    ("HTTPValidationError", typed "object" [
      ("properties", .record [("detail", typed "array"
        [("items", referTo "ValidationError"), titled "Detail"])]),
      titled "HTTPValidationError"]),
    ("ValidationError", typed "object" [
      ("properties", .record [
        ("loc", typed "array" [
          ("items", .record [("anyOf", .arr [typed "string" [], typed "integer" []])]),
          titled "Location"]),
        ("msg", typed "string" [titled "Message"]),
        ("type", typed "string" [titled "Error Type"]),
        ("input", .record [titled "Input"]),
        ("ctx", typed "object" [titled "Context"])]),
      ("required", .ofTexts ["loc".toList, "msg".toList, "type".toList]),
      titled "ValidationError"])]

/-- The description of the routes of a server with a default graph. -/
def description (defaultDot : Text) : Json :=
  .record [
    ("openapi", .ofString "3.1.0"),
    ("info", .record [titled "dtsviz",
      ("description", .ofString "Dependency and syntax tree graph viewer"),
      ("version", .ofString "0.1.0")]),
    ("paths", .record [
      ("/", .record [("get", operation "Index" "index__get" []
        [success "text/html" (typed "string" [])])]),
      ("/health", .record [("get", operation "Health Check" "health_check_health_get" []
        [anyJson])]),
      ("/api/graph", .record [("get", operation "Get Graph" "get_graph_api_graph_get"
        [field "dot" false (typed "string" [("default", .str defaultDot), titled "Dot"])]
        [success "application/json" (typed "object"
          [("additionalProperties", .bool true), titled "Response Get Graph Api Graph Get"]),
         invalid])]),
      ("/api/overlay", .record [
        ("get", operation "Get Overlay" "get_overlay_api_overlay_get"
          [field "node" true (typed "string" [("minLength", .ofNat 1), titled "Node"])]
          [anyJson, invalid]),
        ("delete", operation "Dismiss Overlay" "dismiss_overlay_api_overlay_delete" []
          [anyJson])])]),
    ("components", .record [("schemas", validationSchemas)])]

end DepView.Server.Documentation
